import SnackPortal.Lineage.Tampering

/-!
# Forged field boundaries

A covered text that holds the separator can be cut there: a part of it goes to the neighbouring
field, and the canonical content stays the same.  So the verifier notices every tampering
exactly when it reads pages of at least one row and no covered text holds the separator
(`tampering_detected_iff`).
-/

namespace Lineage

/-- The covered texts that an intent brings. -/
def LineageRow.texts (row : LineageRow) : List String :=
  [row.eventType, row.occurredAt, row.actorRef, row.sourceRef, row.targetRef, row.operation,
    row.schemaVersion, row.derivationRef.getD "", row.parentLineageRef.getD ""]

/-- The row with other texts. -/
def LineageRow.withTexts (row : LineageRow) : List String → LineageRow
  | [eventType, occurredAt, actorRef, sourceRef, targetRef, operation, schemaVersion,
      derivationRef, parentLineageRef] =>
      { row with
        eventType := eventType
        occurredAt := occurredAt
        actorRef := actorRef
        sourceRef := sourceRef
        targetRef := targetRef
        operation := operation
        schemaVersion := schemaVersion
        derivationRef := some derivationRef
        parentLineageRef := some parentLineageRef }
  | _ => row

/-- What the row with other texts is. -/
theorem LineageRow.withTexts_spec (row : LineageRow) {texts : List String}
    (h : texts.length = 9) :
  (row.withTexts texts).texts = texts
    ∧ SameUncovered row (row.withTexts texts)
    ∧ (row.withTexts texts).seq = row.seq
    ∧ (row.withTexts texts).lineageId = row.lineageId
    ∧ (row.withTexts texts).prevMarker = row.prevMarker
  := by
  match texts, h with
  | [_, _, _, _, _, _, _, _, _], _ => exact ⟨rfl, ⟨rfl, rfl, rfl, rfl⟩, rfl, rfl, rfl⟩

section Forgery

variable {hmac : Hmac} {key : String}

/-- A row that can stand for another one without a finding. -/
structure PassesFor (hmac : Hmac) (key : String) (row row' : LineageRow) : Prop where
  seq : row'.seq = row.seq
  prevMarker : row'.prevMarker = row.prevMarker
  integrityMarker : row'.integrityMarker = row.integrityMarker
  marked : row.Marked hmac key → row'.Marked hmac key

/-- The text of a number holds no separator. -/
theorem clean_repr (n : Int) :
  Delimited.Clean Canonical.sep n.repr
  := by
  have hdigits : ∀ m : Nat, Delimited.Clean Canonical.sep m.repr :=
    Delimited.clean_repr (by decide)
  cases n with
  | ofNat m => apply hdigits
  | negSucc m =>
      intro hsep
      rw [show (Int.negSucc m).repr = "-" ++ (m + 1).repr from rfl, String.toList_append] at hsep
      rcases List.mem_append.mp hsep with hsep | hsep
      · revert hsep
        decide
      · apply hdigits _ hsep

/-- A row that holds the separator in a covered text can be forged. -/
theorem exists_forged (hmac : Hmac) (key : String) {row : LineageRow} (hid : Hexadecimal row.lineageId)
    (h : ¬ CleanRow row) :
  ∃ row', PassesFor hmac key row row' ∧ SameUncovered row row' ∧ covered row' ≠ covered row
  := by
  have htext : ∃ text ∈ row.texts, ¬ Delimited.Clean Canonical.sep text := by
    by_contra hall
    push Not at hall
    apply h
    intro field hfield
    cases field with
    | lineageId =>
        intro hsep
        apply absurd (hid _ hsep)
        decide
    | seq =>
        apply clean_repr
    | eventType | occurredAt | actorRef | sourceRef | targetRef | operation | schemaVersion
    | derivationRef | parentLineageRef =>
        apply hall
        simp [LineageRow.texts, LineageRow.get]
  have hnine : row.texts.length = 9 := rfl
  obtain ⟨texts, hlength, hne, hjoin⟩ := Delimited.exists_shift (by omega) htext
  obtain ⟨htexts, hsame, hseq, hlineageId, hprev⟩ := row.withTexts_spec hlength
  have hcovered : ∀ r : LineageRow,
      covered r = [r.prevMarker, r.lineageId, r.seq.repr] ++ r.texts := fun _ => rfl
  use row.withTexts texts
  refine ⟨⟨hseq, hprev, hsame.integrityMarker, ?_⟩, hsame, ?_⟩
  · intro hmarked
    have hread : readVersion (row.withTexts texts) = readVersion row := by
      rw [readVersion, readVersion, hsame.markerVersion]
    have hparts : Delimited.join Canonical.sep (covered (row.withTexts texts))
        = Delimited.join Canonical.sep (covered row) := by
      rw [hcovered, hcovered, htexts, hseq, hlineageId, hprev, hjoin]
    rw [LineageRow.Marked, Canonical.markerFor, Canonical.canonicalContent] at hmarked ⊢
    rw [hread, hsame.integrityMarker]
    rw [covered, covered] at hparts
    rw [hparts]
    apply hmarked
  · intro heq
    apply hne
    rw [hcovered, hcovered, htexts, hseq, hlineageId, hprev] at heq
    apply List.append_cancel_left heq

/-- Where a row passes for another one, the findings at the rows stay away. -/
theorem findings_replace {row row' : LineageRow} (h : PassesFor hmac key row row')
    {front back : List LineageRow} {prevMarker : String} {prevSeq : Option Int}
    (hnone : findings hmac key prevMarker prevSeq (front ++ row :: back) = []) :
  findings hmac key prevMarker prevSeq (front ++ row' :: back) = []
  := by
  induction front generalizing prevMarker prevSeq with
  | nil =>
      rw [List.nil_append, findings, List.append_eq_nil_iff] at hnone ⊢
      obtain ⟨hrow, hback⟩ := hnone
      obtain ⟨hmarked, hprev, hseq⟩ := rowFindings_eq_nil.mp hrow
      constructor
      · apply rowFindings_eq_nil.mpr
        refine ⟨h.marked hmarked, ?_, ?_⟩
        · rw [h.prevMarker, hprev]
        · rw [h.seq]
          apply hseq
      · rw [h.seq, h.integrityMarker]
        apply hback
  | cons first front ih =>
      rw [List.cons_append, findings, List.append_eq_nil_iff] at hnone ⊢
      exact ⟨hnone.1, ih hnone.2⟩

/-- A chain with a forged row is not noticed. -/
theorem forged_undetected {chain : List LineageRow} (hc : Emitted hmac key chain)
    (h : ∃ row ∈ chain, ¬ CleanRow row) {scanPage : Nat} (hpage : 0 < scanPage)
    (tenantId : String) :
  ∃ table, Tampering hmac key chain table ∧ UniqueSeq table
    ∧ ∃ rep, verify hmac key scanPage tenantId none table = some rep ∧ rep.ok = true
  := by
  obtain ⟨row, hrow, hunclean⟩ := h
  obtain ⟨row', hpasses, hsame, hne⟩ := exists_forged hmac key
    (hc.hexadecimal row hrow) hunclean
  obtain ⟨front, back, rfl⟩ := List.append_of_mem hrow
  have hseqs : (front ++ row' :: back).map LineageRow.seq
      = (front ++ row :: back).map LineageRow.seq := by
    simp [hpasses.seq]
  have hincreasing : Keyset.Increasing LineageRow.seq (front ++ row' :: back) := by
    apply List.pairwise_map.mp
    rw [hseqs]
    apply List.pairwise_map.mpr hc.chained.increasing
  have hunique : UniqueSeq (front ++ row' :: back) := by
    apply List.pairwise_map.mpr
    apply hincreasing.imp
    intro r r' hlt
    apply ne_of_lt hlt
  have hself : ∀ rows : List LineageRow, List.Forall₂ SameUncovered rows rows := by
    intro rows
    apply List.forall₂_same.mpr
    intro r _
    exact ⟨rfl, rfl, rfl, rfl⟩
  use front ++ row' :: back
  refine ⟨.change ?_ ?_, hunique, _, verify_inOrder hpage hunique, ?_⟩
  · apply List.rel_append (hself front)
    exact .cons hsame (hself back)
  · intro heq
    apply hne
    rw [List.map_append, List.map_append] at heq
    apply (List.cons.inj (List.append_cancel_left heq)).1
  · have hnone := findings_replace hpasses
      hc.chained.findings_eq_nil
    rw [inOrder, Keyset.insertionSort_eq_of_perm (List.Perm.refl _) hincreasing]
    simp only [report, hnone, List.isEmpty_nil]

/-- Without pages of at least one row nothing is read, and a row that comes in is not
noticed. -/
theorem unread_undetected {chain : List LineageRow} (hc : Emitted hmac key chain)
    (tenantId : String) :
  ∃ table, Tampering hmac key chain table ∧ UniqueSeq table
    ∧ ∃ rep, verify hmac key 0 tenantId none table = some rep ∧ rep.ok = true
  := by
  let row : LineageRow :=
    { lineageId := "", seq := chain.length + 1, segmentId := 1, eventType := "",
      occurredAt := "", actorRef := "", sourceRef := "", targetRef := "", operation := "",
      schemaVersion := "", derivationRef := none, parentLineageRef := none,
      correlationId := none, markerVersion := 2, prevMarker := "", integrityMarker := "" }
  have hunmarked : ¬ row.Marked hmac key := by
    intro h
    have hversion := (Canonical.markerFor_eq_ok h).1
    have htwo : readVersion row = 2 := rfl
    omega
  use chain ++ [row]
  refine ⟨.insert (List.append_nil chain).symm fun h => absurd h hunmarked, ?_, ?_⟩
  · rw [UniqueSeq, List.map_append]
    apply List.Nodup.append
    · apply List.pairwise_map.mpr
      apply hc.chained.increasing.imp
      intro r r' hlt
      apply ne_of_lt hlt
    · apply List.nodup_singleton
    · intro n hn hn'
      obtain ⟨r, hr, rfl⟩ := List.mem_map.mp hn
      have hbounds := Linked.seq_bounds hc.chained hr
      have hrow : r.seq = chain.length + 1 := List.mem_singleton.mp hn'
      omega
  · exact ⟨_, rfl, rfl⟩

/-- Every tampering with an emitted chain is noticed exactly when the verifier reads pages of
at least one row and no covered text of the chain holds the separator. -/
theorem tampering_detected_iff (hd : KeyedDigest hmac) {chain : List LineageRow}
    (hc : Emitted hmac key chain) (scanPage : Nat) (tenantId : String) :
  (∀ table, Tampering hmac key chain table → UniqueSeq table →
      ∃ rep, verify hmac key scanPage tenantId none table = some rep ∧ rep.ok = false)
    ↔ 0 < scanPage ∧ ∀ row ∈ chain, CleanRow row
  := by
  constructor
  · intro hdetected
    have hnoticed : ¬ ∃ table, Tampering hmac key chain table ∧ UniqueSeq table
        ∧ ∃ rep, verify hmac key scanPage tenantId none table = some rep
          ∧ rep.ok = true := by
      rintro ⟨table, htampering, hunique, rep, hrep, hok⟩
      obtain ⟨rep', hrep', hok'⟩ := hdetected table htampering hunique
      rw [hrep] at hrep'
      obtain rfl := Option.some.inj hrep'
      rw [hok] at hok'
      cases hok'
    have hpage : 0 < scanPage := by
      apply Nat.pos_of_ne_zero
      rintro rfl
      apply hnoticed (unread_undetected hc tenantId)
    use hpage
    intro row hrow
    by_contra hunclean
    apply hnoticed (forged_undetected hc ⟨row, hrow, hunclean⟩ hpage tenantId)
  · rintro ⟨hpage, hclean⟩ table htampering hunique
    apply htampering.detected hd hc hclean hpage tenantId hunique

end Forgery

section Digest

/-- An import by one user. -/
def importIntent (actorRef sourceRef targetRef : String) : LineageIntent where
  eventType := "import"
  occurredAt := "2026-01-01T00:00:00+00:00"
  actorRef := actorRef
  sourceRef := sourceRef
  targetRef := targetRef
  operation := "created"
  schemaVersion := "1"
  derivationRef := some "job1"
  parentLineageRef := none
  correlationId := some "c"

/-- The lineage id of the first row. -/
def firstLineageId : String := "0b0e7a52c3f14d0f9d3a6d5f7c2b1a90"

/-- The canonical content of a first row of the user `user1`. -/
def firstContent : ByteArray :=
  (Delimited.join Canonical.sep ["", firstLineageId, "1", "import",
    "2026-01-01T00:00:00+00:00", "user1", "g:1", "t1:tenant_copy:1", "created", "1", "job1",
    ""]).toUTF8

/-- HMAC-SHA256 of that content under the key `chainkey`. -/
def firstMarker : String :=
  "aa2bf4e4d711ae26038a7c085d6cc1b0b892d5ebfbe274b411eddf10b072144f"

/-- A hexadecimal digit. -/
def hexDigit (n : Nat) : Char :=
  "0123456789abcdef".toList.getD n '0'

/-- The bytes in hexadecimal, with a digit before them. -/
def hexText (bytes : ByteArray) : String :=
  String.ofList ('0' :: bytes.data.toList.flatMap fun b =>
    [hexDigit (b.toNat / 16), hexDigit (b.toNat % 16)])

/-- A keyed digest: HMAC-SHA256 at the content above, and elsewhere the message itself in
hexadecimal. -/
def sampleHmac : Hmac := fun key message =>
  if key = "chainkey".toUTF8 ∧ message = firstContent then firstMarker else hexText message

theorem hexDigit_inj :
  ∀ m < 16, ∀ n < 16, hexDigit m = hexDigit n → m = n
  := by
  decide

theorem hexDigit_mem :
  ∀ n < 16, hexDigit n ∈ "0123456789abcdef".toList
  := by
  decide

theorem hexText_injective :
  Function.Injective hexText
  := by
  intro bytes bytes' h
  have hlists := (List.cons.inj (String.ofList_injective h)).2
  have hdata : ∀ l l' : List UInt8,
      l.flatMap (fun b => [hexDigit (b.toNat / 16), hexDigit (b.toNat % 16)])
        = l'.flatMap (fun b => [hexDigit (b.toNat / 16), hexDigit (b.toNat % 16)]) →
      l = l' := by
    intro l
    induction l with
    | nil =>
        intro l' hl
        cases l' with
        | nil => rfl
        | cons b l' => cases hl
    | cons b l ih =>
        intro l' hl
        cases l' with
        | nil => cases hl
        | cons b' l' =>
            simp only [List.flatMap_cons, List.cons_append, List.nil_append,
              List.cons.injEq] at hl
            obtain ⟨hhigh, hlow, hrest⟩ := hl
            have hb := b.toNat_lt
            have hb' := b'.toNat_lt
            have hdiv := hexDigit_inj _ (by omega) _ (by omega) hhigh
            have hmod := hexDigit_inj _ (by omega) _ (by omega) hlow
            have hbyte : b = b' := by
              apply UInt8.toNat_inj.mp
              omega
            rw [hbyte, ih l' hrest]
  apply ByteArray.ext
  apply Array.toList_inj.mp
  apply hdata _ _ hlists

theorem length_hexText (bytes : ByteArray) :
  (hexText bytes).toList.length = 2 * bytes.data.toList.length + 1
  := by
  rw [hexText, String.toList_ofList, List.length_cons, List.length_flatMap]
  simp [Nat.mul_comm]

theorem sampleHmac_digest :
  KeyedDigest sampleHmac
  := by
  have hlength : ∀ bytes, hexText bytes ≠ firstMarker := by
    intro bytes h
    have hlengths := congrArg (fun text : String => text.toList.length) h
    rw [length_hexText, show firstMarker.toList.length = 64 from by decide +kernel] at hlengths
    omega
  constructor
  · intro key message message' h
    rw [sampleHmac, sampleHmac] at h
    split at h
    · rename_i hm
      split at h
      · rename_i hm'
        rw [hm.2, hm'.2]
      · exact absurd h.symm (hlength _)
    · split at h
      · exact absurd h (hlength _)
      · apply hexText_injective h
  · intro key message
    rw [sampleHmac]
    split
    · decide +kernel
    · intro ch hch
      rw [hexText, String.toList_ofList] at hch
      rcases List.mem_cons.mp hch with rfl | hch
      · decide
      · obtain ⟨b, -, hb⟩ := List.mem_flatMap.mp hch
        have hlt := b.toNat_lt
        rcases List.mem_cons.mp hb with rfl | hb
        · apply hexDigit_mem _ (by omega)
        · obtain rfl := List.mem_singleton.mp hb
          apply hexDigit_mem _ (by omega)
  · intro key message h
    rw [sampleHmac] at h
    split at h
    · revert h
      decide
    · have hlengths := congrArg (fun text : String => text.toList.length) h
      rw [length_hexText] at hlengths
      simp at hlengths

/-- The first row of a chain. -/
def firstRow (actorRef sourceRef targetRef marker : String) : LineageRow where
  lineageId := firstLineageId
  seq := 1
  segmentId := 1
  eventType := "import"
  occurredAt := "2026-01-01T00:00:00+00:00"
  actorRef := actorRef
  sourceRef := sourceRef
  targetRef := targetRef
  operation := "created"
  schemaVersion := "1"
  derivationRef := some "job1"
  parentLineageRef := none
  correlationId := some "c"
  markerVersion := 1
  prevMarker := ""
  integrityMarker := marker

/-- Another target in the row of a chain is noticed. -/
theorem tampering_detected_target :
  ∃ rep, verify sampleHmac "chainkey" 500 "t1" none
      [firstRow "user1" "g:1" "t1:tenant_copy:EVIL" firstMarker] = some rep
    ∧ rep.ok = false
  := by
  have hc : Emitted sampleHmac "chainkey" ([] ++
      [firstRow "user1" "g:1" "t1:tenant_copy:1" firstMarker]) :=
    .emit .nil (show Hexadecimal firstLineageId by decide)
      (importIntent "user1" "g:1" "t1:tenant_copy:1") (by decide +kernel)
  apply (tampering_detected_iff sampleHmac_digest hc 500 "t1").mpr
  · constructor
    · decide
    · decide
  · apply Tampering.change
    · exact .cons ⟨rfl, rfl, rfl, rfl⟩ .nil
    · decide
  · decide

/-- The row of a user whose reference holds the separator. -/
def splitRow : LineageRow :=
  (LineageEmit.row sampleHmac "chainkey" none firstLineageId
    (importIntent "user\x1f1" "g:1" "t1:tenant_copy:1")).toOption.getD
      (firstRow "" "" "" "")

/-- The reference of the user gives what follows its separator to the source reference: the
report is still ok. -/
theorem tampering_detected_forged :
  KeyedDigest sampleHmac ∧ Emitted sampleHmac "chainkey" [splitRow]
    ∧ ¬ ∀ table, Tampering sampleHmac "chainkey" [splitRow] table → UniqueSeq table →
      ∃ rep, verify sampleHmac "chainkey" 500 "t1" none table = some rep ∧ rep.ok = false
  := by
  refine ⟨sampleHmac_digest, ?_, ?_⟩
  · exact .emit .nil (show Hexadecimal firstLineageId by decide)
      (importIntent "user\x1f1" "g:1" "t1:tenant_copy:1") (by decide +kernel)
  · intro hclaim
    have hsame : ∀ row : LineageRow,
        SameUncovered row { row with actorRef := "user", sourceRef := "1\x1fg:1" } :=
      fun _ => ⟨rfl, rfl, rfl, rfl⟩
    have hforged : Tampering sampleHmac "chainkey" [splitRow]
        [{ splitRow with actorRef := "user", sourceRef := "1\x1fg:1" }] := by
      apply Tampering.change
      · exact .cons (hsame splitRow) .nil
      · decide +kernel
    obtain ⟨rep, hrep, hok⟩ := hclaim _ hforged (by decide +kernel)
    have hrun : (verify sampleHmac "chainkey" 500 "t1" none
        [{ splitRow with actorRef := "user", sourceRef := "1\x1fg:1" }]).map
          VerificationReport.ok = some true := by
      decide +kernel
    rw [hrep, Option.map_some, hok] at hrun
    cases hrun

end Digest

end Lineage
