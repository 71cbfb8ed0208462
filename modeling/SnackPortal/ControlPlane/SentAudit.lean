import SnackPortal.ControlPlane.Ingest

/-!
# What is sent to the audit

The texts that the producers of the audit mint, and the bodies that they send: an envelope around
an event whose fields are texts, or null.  Which of its fields the ingest edges read follows from
the texts alone.
-/

namespace ControlPlane.EmittedAudit

open Ingest (Admitted Required Nullable Envelope)
open Wire (Entries item)
open CodePoints (ofString)

/-! ## Minted texts -/

/-- The characters of a UUID, and of a time in UTC. -/
def mintedCharacters : List Char :=
  "0123456789abcdef-:+T.".toList

/-- What is written for an identity (`str(uuid4())`, `uuid4().hex`) or for a time
(`isoformat()`). -/
structure MintedText (text : String) : Prop where
  ne : text ≠ ""
  length : text.length ≤ 36
  characters : ∀ c ∈ text.toList, c ∈ mintedCharacters

/-- Every shape of a secret has a character that is not one of a minted text. -/
theorem secretShapes_unminted {marker : String} (h : marker ∈ Ingest.secretShapes) :
  ∃ c ∈ marker.toList, c ∉ mintedCharacters
  := by
  rcases List.mem_cons.mp h with rfl | h
  · exact ⟨'J', by decide +kernel, by decide +kernel⟩
  rcases List.mem_cons.mp h with rfl | h
  · exact ⟨'B', by decide +kernel, by decide +kernel⟩
  rcases List.mem_cons.mp h with rfl | h
  · exact ⟨'A', by decide +kernel, by decide +kernel⟩
  rcases List.mem_cons.mp h with rfl | h
  · exact ⟨'g', by decide +kernel, by decide +kernel⟩
  rcases List.mem_cons.mp h with rfl | h
  · exact ⟨'x', by decide +kernel, by decide +kernel⟩
  rcases List.mem_cons.mp h with rfl | h
  · exact ⟨'/', by decide +kernel, by decide +kernel⟩
  · cases h

theorem MintedText.admitted {text : String} (h : MintedText text) :
  Admitted (ofString text)
  := by
  constructor
  · rw [CodePoints.length_ofString]
    apply h.length.trans
    decide
  · intro marker hmarker hcontains
    obtain ⟨c, hc, hunminted⟩ := secretShapes_unminted hmarker
    have hmem : c.toNat ∈ ofString text := by
      apply (CodePoints.contains_iff.mp hcontains).subset
      apply List.mem_map_of_mem hc
    obtain ⟨c', hc', hsame⟩ := List.mem_map.mp hmem
    have heq : c' = c := by
      apply Char.ext
      apply UInt32.toNat_inj.mp hsame
    rw [heq] at hc'
    exact hunminted (h.characters c hc')

/-! ## On the wire -/

/-- An object with these fields. -/
def entriesOf (fields : List (String × Wire)) : Entries :=
  fields.map fun field => (ofString field.1, field.2)

theorem item_entriesOf (key : String) (fields : List (String × Wire)) :
  item key (entriesOf fields) = fields.lookup key
  := by
  induction fields with
  | nil => rfl
  | cons field fields ih =>
      rw [item, entriesOf] at ih ⊢
      rw [List.map_cons, List.lookup_cons, List.lookup_cons, ih]
      have hkey : (ofString key == ofString field.1) = (key == field.1) := by
        by_cases heq : key = field.1
        · rw [heq, beq_self_eq_true, beq_self_eq_true]
        · rw [beq_eq_false_iff_ne.mpr heq,
            beq_eq_false_iff_ne.mpr (CodePoints.ofString_injective.ne heq)]
      rw [hkey]

theorem hasExactly_entriesOf (fields : List (String × Wire)) :
  Wire.hasExactly (fields.map Prod.fst) (entriesOf fields)
  := by
  rw [Wire.hasExactly, Bool.and_eq_true, List.all_eq_true, List.all_eq_true]
  constructor
  · intro e he
    obtain ⟨field, hfield, rfl⟩ := List.mem_map.mp he
    apply List.any_eq_true.mpr
    use field.1, List.mem_map_of_mem hfield
    apply decide_eq_true rfl
  · intro name hname
    rw [item_entriesOf]
    obtain ⟨field, hfield, rfl⟩ := List.mem_map.mp hname
    induction fields with
    | nil => cases hfield
    | cons field' fields ih =>
        rw [List.lookup_cons]
        by_cases heq : field.1 = field'.1
        · rw [heq, beq_self_eq_true]
          rfl
        · rw [beq_eq_false_iff_ne.mpr heq]
          rcases List.mem_cons.mp hfield with rfl | hfield
          · exact absurd rfl heq
          · apply ih hfield (List.mem_map_of_mem hfield)

def ofText (text : String) : Wire :=
  .text (ofString text)

/-- A text, or null. -/
def ofOption : Option String → Wire
  | none => .null
  | some text => ofText text

/-- The body that is sent for an event. -/
def sent (event : Entries) : Wire :=
  .object (entriesOf [("version", .int 1), ("event", .object event)])

/-- What is sent is an envelope around the event. -/
theorem sent_envelope {fields : List (String × Wire)} {eventKeys : List String}
    (hkeys : fields.map Prod.fst = eventKeys)
    (hversion : fields.lookup "event_version" = some (.int 1)) :
  Envelope (fun version => version.equalsInt 1) eventKeys (sent (entriesOf fields))
    (entriesOf fields)
  := by
  constructor
  · use entriesOf [("version", .int 1), ("event", .object (entriesOf fields))], .int 1, rfl
    constructor
    · apply hasExactly_entriesOf [("version", .int 1), ("event", .object (entriesOf fields))]
    · constructor
      · rw [item_entriesOf]
        rfl
      · constructor
        · rfl
        · rw [item_entriesOf]
          rfl
  · rw [← hkeys]
    apply hasExactly_entriesOf
  · rw [item_entriesOf, hversion]

/-- The event of what is sent is read back. -/
theorem Envelope.eq_sent {IsVersion : Wire → Prop} {eventKeys : List String}
    {event event' : Entries} (h : Envelope IsVersion eventKeys (sent event') event) :
  event = event'
  := by
  obtain ⟨entries, version, hentries, -, -, -, hevent⟩ := h.envelope
  obtain rfl := Wire.object.inj hentries
  rw [item_entriesOf] at hevent
  apply (Wire.object.inj (Option.some.inj hevent)).symm

section Field

variable {fields : List (String × Wire)} {key text : String} {read : CodePoints}

theorem required_iff (hfield : fields.lookup key = some (ofText text)) :
  Required (entriesOf fields) key read
    ↔ read = ofString text ∧ Admitted (ofString text) ∧ text ≠ ""
  := by
  constructor
  · intro h
    obtain rfl := h.unique ((item_entriesOf key fields).trans hfield)
    constructor
    · rfl
    · constructor
      · apply h.2.1
      · intro hempty
        apply h.2.2 (CodePoints.ofString_eq_nil.mpr hempty)
  · intro ⟨hread, hadmitted, hne⟩
    rw [hread]
    constructor
    · rw [item_entriesOf, hfield, ofText]
    · constructor
      · apply hadmitted
      · intro hnil
        apply hne (CodePoints.ofString_eq_nil.mp hnil)

theorem nullable_iff {text : Option String} {read : Option CodePoints}
    (hfield : fields.lookup key = some (ofOption text)) :
  Nullable (entriesOf fields) key read
    ↔ read = text.map ofString ∧ ∀ ref ∈ text, Admitted (ofString ref)
  := by
  have hitem := (item_entriesOf key fields).trans hfield
  cases text with
  | none =>
      constructor
      · intro h
        cases read with
        | none => simp
        | some read =>
            rw [Nullable, hitem] at h
            cases h.1
      · intro ⟨hread, _⟩
        rw [hread]
        apply hitem
  | some text =>
      constructor
      · intro h
        obtain rfl := h.unique hitem
        constructor
        · rfl
        · intro ref href
          obtain rfl := Option.some.inj href
          apply h.2
      · intro ⟨hread, hadmitted⟩
        rw [hread]
        constructor
        · apply hitem
        · apply hadmitted text rfl

end Field

end ControlPlane.EmittedAudit
