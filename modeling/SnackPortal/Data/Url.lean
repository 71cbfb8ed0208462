import Mathlib.Data.List.SplitBy
import Mathlib.Data.List.TakeWhile
import SnackPortal.Data.IpAddress
import SnackPortal.Data.UrlPath

/-!
# URLs and their queries

How a URL is split into its parts, which may fail, and put together again; and how the fields of
a query are read from it, which never fails: escapes stand for bytes, and bytes that are no
character for a replacement.

A URL fails to split where the brackets of its host do not match or hold no address, and where
a character of its host stands for one that ends a host.
-/

namespace Url

open UrlPath (hexDigit)

/-- What the conversions of a text raise. -/
inductive ValueError where
  | valueError
deriving DecidableEq, Repr

/-! ## Splitting -/

structure SplitResult where
  scheme : String
  netloc : String
  path : String
  query : String
  fragment : String
deriving DecidableEq, Repr

/-- What comes before the first `c`, and what comes after it. -/
def partition (c : Char) (chars : List Char) : List Char × List Char :=
  (chars.takeWhile (· != c), (chars.dropWhile (· != c)).drop 1)

theorem partition_of_not_mem {c : Char} {chars : List Char} (h : c ∉ chars) :
  partition c chars = (chars, [])
  := by
  have hne : ∀ d ∈ chars, (d != c) = true := by
    intro d hd
    apply bne_iff_ne.mpr
    intro heq
    rw [heq] at hd
    apply h hd
  rw [partition, List.takeWhile_eq_self_iff.mpr hne, List.dropWhile_eq_nil_iff.mpr hne,
    List.drop_nil]

theorem partition_append {c : Char} {front back : List Char} (h : c ∉ front) :
  partition c (front ++ c :: back) = (front, back)
  := by
  have hne : ∀ d ∈ front, (d != c) = true := by
    intro d hd
    apply bne_iff_ne.mpr
    intro heq
    rw [heq] at hd
    apply h hd
  rw [partition, List.takeWhile_append_of_pos hne, List.dropWhile_append_of_pos hne]
  simp

theorem not_mem_partition {c : Char} {chars : List Char} :
  c ∉ (partition c chars).1
  := by
  intro hmem
  have hne := List.mem_takeWhile_imp hmem
  apply bne_iff_ne.mp hne rfl

theorem partition_fst_prefix {c : Char} {chars : List Char} :
  (partition c chars).1 <+: chars
  := by
  apply List.takeWhile_prefix

/-- A text with the character is what comes before it, the character and what comes after. -/
theorem partition_of_mem {c : Char} {chars : List Char} (h : c ∈ chars) :
  chars = (partition c chars).1 ++ c :: (partition c chars).2
  := by
  obtain ⟨before, after, rfl, hfirst⟩ := List.eq_append_cons_of_mem h
  rw [partition_append hfirst]

/-- The characters of a scheme. -/
def isSchemeChar (c : Char) : Bool :=
  c.isAlphanum || c == '+' || c == '-' || c == '.'

/-- The text without leading blanks and controls, and without tabs and ends of lines. -/
def cleaned (url : List Char) : List Char :=
  (url.dropWhile fun c => c.toNat ≤ 0x20).filter fun c => c != '\t' && c != '\r' && c != '\n'

/-- The text before the first colon is a scheme. -/
def hasScheme (chars : List Char) : Bool :=
  chars.contains ':' && ((partition ':' chars).1.head?.any Char.isAlpha
    && (partition ':' chars).1.all isSchemeChar)

/-- The scheme and the rest. -/
def splitScheme (chars : List Char) : List Char × List Char :=
  if hasScheme chars then
    ((partition ':' chars).1.map Char.toLower, (partition ':' chars).2)
  else
    ([], chars)

/-- The character ends a host. -/
def endsHost (c : Char) : Bool :=
  c == '/' || c == '?' || c == '#'

/-- The host and the rest. -/
def splitNetloc (chars : List Char) : List Char × List Char :=
  if ['/', '/'].isPrefixOf chars then
    ((chars.drop 2).takeWhile fun c => !endsHost c, (chars.drop 2).dropWhile fun c => !endsHost c)
  else
    ([], chars)

/-- `_check_bracketed_host`. -/
def isBracketedHost (host : List Char) : Bool :=
  if host.head? = some 'v' then
    let (version, address) := partition '.' (host.drop 1)
    !version.isEmpty && version.all (fun c => (hexDigit c).isSome) && !address.isEmpty
  else
    IpAddress.isIPv6 (String.ofList host)

/-- The brackets match, and hold an address. -/
def bracketsOk (netloc : List Char) : Bool :=
  if netloc.contains '[' && netloc.contains ']' then
    isBracketedHost (partition ']' (partition '[' netloc).2).1
  else
    !netloc.contains '[' && !netloc.contains ']'

/-- `_checknetloc`, with the normal form that Unicode gives a text. -/
def checkNetloc (nfkc : String → String) (netloc : List Char) : Bool :=
  if netloc.all fun c => c.toNat < 0x80 then
    true
  else
    let n := netloc.filter fun c => !(['@', ':', '#', '?'].contains c)
    nfkc (String.ofList n) = String.ofList n
      || (nfkc (String.ofList n)).toList.all fun c => !(['/', '?', '#', '@', ':'].contains c)

/-- The host part passes both checks. -/
def netlocOk (nfkc : String → String) (netloc : List Char) : Bool :=
  bracketsOk netloc && checkNetloc nfkc netloc

/-- The parts of a text whose host part passes. -/
def parts (scheme netloc rest : List Char) : SplitResult where
  scheme := String.ofList scheme
  netloc := String.ofList netloc
  path := String.ofList (partition '?' (partition '#' rest).1).1
  query := String.ofList (partition '?' (partition '#' rest).1).2
  fragment := String.ofList (partition '#' rest).2

/-- `urlsplit`. -/
def urlsplit (nfkc : String → String) (url : String) : Except ValueError SplitResult :=
  let (scheme, rest) := splitScheme (cleaned url.toList)
  let (netloc, rest) := splitNetloc rest
  if netlocOk nfkc netloc then .ok (parts scheme netloc rest) else .error .valueError

/-- A text of no blanks is clean. -/
theorem cleaned_of_visible {url : List Char} (h : ∀ c ∈ url, 0x20 < c.toNat) :
  cleaned url = url
  := by
  have hdrop : url.dropWhile (fun c => c.toNat ≤ 0x20) = url := by
    cases url with
    | nil => rfl
    | cons c url =>
        have hc : ¬ c.toNat ≤ 0x20 := Nat.not_le.mpr (h c List.mem_cons_self)
        simp [hc]
  rw [cleaned, hdrop]
  apply List.filter_eq_self.mpr
  intro c hc
  have hvisible := h c hc
  simp only [Bool.and_eq_true, bne_iff_ne]
  constructor
  · constructor
    · rintro rfl
      revert hvisible
      decide
    · rintro rfl
      revert hvisible
      decide
  · rintro rfl
    revert hvisible
    decide

/-- A path and a query, of visible characters without a colon and a number sign, are split at
the question mark. -/
theorem urlsplit_path_query (nfkc : String → String) {path query : List Char}
    (hpath : ¬ ['/', '/'].isPrefixOf (path ++ '?' :: query)) (hquery : '?' ∉ path)
    (hvisible : ∀ c ∈ path ++ '?' :: query, 0x20 < c.toNat ∧ c ≠ ':' ∧ c ≠ '#') :
  urlsplit nfkc (String.ofList (path ++ '?' :: query))
    = .ok ⟨"", "", String.ofList path, String.ofList query, ""⟩
  := by
  have hclean : cleaned (path ++ '?' :: query) = path ++ '?' :: query := by
    apply cleaned_of_visible
    intro c hc
    apply (hvisible c hc).1
  have hscheme : hasScheme (path ++ '?' :: query) = false := by
    rw [hasScheme, Bool.and_eq_false_iff]
    apply Or.inl
    apply Bool.eq_false_iff.mpr
    intro hcolon
    apply (hvisible ':' (List.contains_iff_mem.mp hcolon)).2.1 rfl
  have hfragment : '#' ∉ path ++ '?' :: query := by
    intro hmem
    apply (hvisible '#' hmem).2.2 rfl
  have hsplit : splitScheme (path ++ '?' :: query) = ([], path ++ '?' :: query) := by
    rw [splitScheme, hscheme]
    rfl
  have hnetloc : splitNetloc (path ++ '?' :: query) = ([], path ++ '?' :: query) := by
    rw [splitNetloc, if_neg hpath]
  simp only [urlsplit, String.toList_ofList, hclean, hsplit, hnetloc, parts,
    partition_of_not_mem hfragment, partition_append hquery]
  rfl

/-! ## Putting together -/

/-- The schemes that a host follows. -/
def usesNetloc : List String :=
  ["", "ftp", "http", "gopher", "nntp", "telnet", "imap", "wais", "file", "mms", "https",
    "shttp", "snews", "prospero", "rtsp", "rtspu", "rsync", "svn", "svn+ssh", "sftp", "nfs",
    "git", "git+ssh", "ws", "wss"]

/-- `urlunsplit`. -/
def urlunsplit (r : SplitResult) : String :=
  let url :=
    if r.netloc ≠ "" ∨ (r.scheme ≠ "" ∧ r.scheme ∈ usesNetloc) ∨ Text.startsWith r.path "//" then
      "//" ++ r.netloc
        ++ if r.path ≠ "" ∧ ¬ Text.startsWith r.path "/" then "/" ++ r.path else r.path
    else
      r.path
  let url := if r.scheme ≠ "" then r.scheme ++ ":" ++ url else url
  let url := if r.query ≠ "" then url ++ "?" ++ r.query else url
  if r.fragment ≠ "" then url ++ "#" ++ r.fragment else url

/-! ## Queries -/

/-- A character in UTF-8 of which some bytes are read: how many are to come, in which range the
next one is, and the value so far. -/
structure Pending where
  need : Nat
  low : Nat
  high : Nat
  value : Nat
deriving DecidableEq, Repr

def replacement : Char := Char.ofNat 0xfffd

/-- The first byte of a character. -/
def leadByte (b : Nat) : List Char × Option Pending :=
  if b < 0x80 then ([Char.ofNat b], none)
  else if 0xc2 ≤ b ∧ b ≤ 0xdf then ([], some ⟨1, 0x80, 0xbf, b - 0xc0⟩)
  else if b = 0xe0 then ([], some ⟨2, 0xa0, 0xbf, 0⟩)
  else if b = 0xed then ([], some ⟨2, 0x80, 0x9f, 0xd⟩)
  else if 0xe1 ≤ b ∧ b ≤ 0xef then ([], some ⟨2, 0x80, 0xbf, b - 0xe0⟩)
  else if b = 0xf0 then ([], some ⟨3, 0x90, 0xbf, 0⟩)
  else if b = 0xf4 then ([], some ⟨3, 0x80, 0x8f, 4⟩)
  else if 0xf1 ≤ b ∧ b ≤ 0xf3 then ([], some ⟨3, 0x80, 0xbf, b - 0xf0⟩)
  else ([replacement], none)

/-- `bytes.decode("utf-8", "replace")`: every longest beginning of a character that does not go
on is one replacement. -/
def decodeUtf8 : Option Pending → List Nat → List Char
  | none, [] => []
  | some _, [] => [replacement]
  | none, b :: rest => (leadByte b).1 ++ decodeUtf8 (leadByte b).2 rest
  | some p, b :: rest =>
      if p.low ≤ b ∧ b ≤ p.high then
        if p.need = 1 then
          Char.ofNat (64 * p.value + b % 64) :: decodeUtf8 none rest
        else
          decodeUtf8 (some ⟨p.need - 1, 0x80, 0xbf, 64 * p.value + b % 64⟩) rest
      else
        replacement :: ((leadByte b).1 ++ decodeUtf8 (leadByte b).2 rest)

/-- `unquote_to_bytes`, of characters in ASCII. -/
def unquoteToBytes : List Char → List Nat
  | '%' :: high :: low :: rest =>
      match hexDigit high, hexDigit low with
      | some high', some low' => (16 * high' + low') :: unquoteToBytes rest
      | _, _ => 0x25 :: unquoteToBytes (high :: low :: rest)
  | c :: rest => c.toNat :: unquoteToBytes rest
  | [] => []

def isAscii (c : Char) : Bool :=
  c.toNat < 0x80

/-- `unquote`: the parts in ASCII are decoded each by itself. -/
def unquote (chars : List Char) : List Char :=
  (chars.splitBy fun c d => isAscii c == isAscii d).flatMap fun run =>
    if run.all isAscii then decodeUtf8 none (unquoteToBytes run) else run

/-- `unquote_plus`. -/
def unquotePlus (chars : List Char) : List Char :=
  unquote (chars.map fun c => if c = '+' then ' ' else c)

/-- `parse_qsl`: the fields with their values; those without one are left out, unless they are
asked for. -/
def parseQsl (keepBlankValues : Bool) (query : String) : List (String × String) :=
  ((query.toList.splitOn '&').filter fun field => !field.isEmpty
      && (keepBlankValues || !(partition '=' field).2.isEmpty)).map
    fun field =>
      (String.ofList (unquotePlus (partition '=' field).1),
        String.ofList (unquotePlus (partition '=' field).2))

/-- The values of a field. -/
def valuesOf (name : String) (fields : List (String × String)) : List String :=
  (fields.filter fun field => field.1 = name).map Prod.snd

/-- A character that stands for itself in a query. -/
def Plain (c : Char) : Prop :=
  isAscii c ∧ c ≠ '&' ∧ c ≠ '=' ∧ c ≠ '+' ∧ c ≠ '%'

section Plain

variable {text : List Char}

theorem decodeUtf8_ascii (h : ∀ c ∈ text, isAscii c) :
  decodeUtf8 none (text.map Char.toNat) = text
  := by
  induction text with
  | nil => rfl
  | cons c text ih =>
      rw [List.forall_mem_cons] at h
      have hc : c.toNat < 0x80 := of_decide_eq_true h.1
      have hlead : leadByte c.toNat = ([c], none) := by
        rw [leadByte, if_pos hc, Char.ofNat_toNat]
      rw [List.map_cons, decodeUtf8, hlead]
      simp only [ih h.2, List.cons_append, List.nil_append]

theorem unquoteToBytes_plain (h : '%' ∉ text) :
  unquoteToBytes text = text.map Char.toNat
  := by
  induction text with
  | nil => rfl
  | cons c text ih =>
      rw [List.mem_cons, not_or] at h
      rw [unquoteToBytes, ih h.2, List.map_cons]
      intro _ _ _ hc
      exact absurd hc.symm h.1

/-- A text in ASCII without escapes stands for itself. -/
theorem unquote_plain (hascii : ∀ c ∈ text, isAscii c) (hescape : '%' ∉ text) :
  unquote text = text
  := by
  by_cases hnil : text = []
  · rw [hnil]
    rfl
  · have hchain : text.IsChain fun c d => isAscii c == isAscii d := by
      apply List.Pairwise.isChain
      apply List.pairwise_of_forall_mem_list
      intro c hc d hd
      rw [hascii c hc, hascii d hd]
      rfl
    have hall : text.all isAscii = true := List.all_eq_true.mpr hascii
    rw [unquote, List.splitBy_of_isChain hnil hchain, List.flatMap_singleton, if_pos hall,
      unquoteToBytes_plain hescape, decodeUtf8_ascii hascii]

theorem unquotePlus_plain (h : ∀ c ∈ text, Plain c) :
  unquotePlus text = text
  := by
  have hmap : text.map (fun c => if c = '+' then ' ' else c) = text := by
    nth_rewrite 2 [← List.map_id text]
    apply List.map_congr_left
    intro c hc
    apply if_neg (h c hc).2.2.2.1
  rw [unquotePlus, hmap]
  apply unquote_plain
  · intro c hc
    apply (h c hc).1
  · intro hmem
    apply (h '%' hmem).2.2.2.2 rfl

/-- The text of fields with their values. -/
def unparsed (fields : List (String × String)) : List Char :=
  ['&'].intercalate (fields.map fun field => field.1.toList ++ '=' :: field.2.toList)

/-- The characters of fields with their values are theirs and the separators. -/
theorem mem_unparsed {fields : List (String × String)} {c : Char} (h : c ∈ unparsed fields) :
  c = '&' ∨ c = '=' ∨ ∃ field ∈ fields, c ∈ field.1.toList ∨ c ∈ field.2.toList
  := by
  induction fields with
  | nil => cases h
  | cons field fields ih =>
      have hfield : c ∈ field.1.toList ++ '=' :: field.2.toList → c = '&' ∨ c = '='
          ∨ ∃ field' ∈ field :: fields, c ∈ field'.1.toList ∨ c ∈ field'.2.toList := by
        intro hmem
        rcases List.mem_append.mp hmem with hmem | hmem
        · exact Or.inr (Or.inr ⟨field, List.mem_cons_self, Or.inl hmem⟩)
        · rcases List.mem_cons.mp hmem with heq | hmem
          · apply Or.inr (Or.inl heq)
          · exact Or.inr (Or.inr ⟨field, List.mem_cons_self, Or.inr hmem⟩)
      cases fields with
      | nil =>
          apply hfield
          simpa [unparsed] using h
      | cons field' fields =>
          rw [unparsed, List.map_cons, List.map_cons, List.intercalate_cons_cons,
            List.mem_append, List.mem_append, List.mem_singleton] at h
          rcases h with (hmem | heq) | hmem
          · apply hfield hmem
          · apply Or.inl heq
          · rcases ih hmem with heq | heq | ⟨other, hother, hchar⟩
            · apply Or.inl heq
            · apply Or.inr (Or.inl heq)
            · exact Or.inr (Or.inr ⟨other, List.mem_cons_of_mem field hother, hchar⟩)

/-- Fields of plain characters, each with a value, are read as they are written. -/
theorem parseQsl_unparsed (keepBlankValues : Bool) {fields : List (String × String)}
    (hne : fields ≠ []) (h : ∀ field ∈ fields,
      (∀ c ∈ field.1.toList, Plain c) ∧ (∀ c ∈ field.2.toList, Plain c) ∧ field.2 ≠ "") :
  parseQsl keepBlankValues (String.ofList (unparsed fields)) = fields
  := by
  have hsplit : (unparsed fields).splitOn '&'
      = fields.map fun field => field.1.toList ++ '=' :: field.2.toList := by
    apply List.splitOn_intercalate
    · intro text htext hmem
      obtain ⟨field, hfield, rfl⟩ := List.mem_map.mp htext
      obtain ⟨hname, hvalue, -⟩ := h field hfield
      rcases List.mem_append.mp hmem with hmem | hmem
      · apply (hname _ hmem).2.1 rfl
      · rcases List.mem_cons.mp hmem with heq | hmem
        · revert heq
          decide
        · apply (hvalue _ hmem).2.1 rfl
    · intro hnil
      apply hne (List.map_eq_nil_iff.mp hnil)
  have hequals : ∀ field ∈ fields, '=' ∉ field.1.toList := by
    intro field hfield hmem
    apply ((h field hfield).1 _ hmem).2.2.1 rfl
  have hkept : (fields.map fun field => field.1.toList ++ '=' :: field.2.toList).filter
      (fun field => !field.isEmpty
        && (keepBlankValues || !(partition '=' field).2.isEmpty))
        = fields.map fun field => field.1.toList ++ '=' :: field.2.toList := by
    apply List.filter_eq_self.mpr
    intro text htext
    obtain ⟨field, hfield, rfl⟩ := List.mem_map.mp htext
    have hvalue : field.2.toList ≠ [] := by
      intro hnil
      apply (h field hfield).2.2
      apply String.toList_injective hnil
    rw [partition_append (hequals field hfield)]
    simp [hvalue]
  rw [parseQsl, String.toList_ofList, hsplit, hkept, List.map_map]
  nth_rewrite 2 [← List.map_id fields]
  apply List.map_congr_left
  intro field hfield
  obtain ⟨hname, hvalue, -⟩ := h field hfield
  simp only [Function.comp_apply, partition_append (hequals field hfield),
    unquotePlus_plain hname, unquotePlus_plain hvalue, String.ofList_toList, id]

end Plain

end Url
