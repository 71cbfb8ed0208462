import Mathlib.Data.List.Basic

/-!
# Paths of URLs

The segments that a server sees of a path as it is written in a URL: the text up to a fragment
or a query, without its dot segments, and with its escapes decoded.  Segments with none of the
characters `/`, `?`, `#` and `%` that are not dots are seen as they are written, whatever query
or fragment follows them (`segments_join`).
-/

namespace UrlPath

/-- The segments without `.`, and without `..` and what it goes back over. -/
def removeDots (segments : List (List Char)) : List (List Char) :=
  (segments.foldl (fun kept segment =>
    if segment = ['.'] then
      kept
    else if segment = ['.', '.'] then
      if kept = [[]] then kept else kept.tail
    else
      segment :: kept) []).reverse

/-- The value of a hexadecimal digit. -/
def hexDigit (c : Char) : Option Nat :=
  if '0' ≤ c ∧ c ≤ '9' then some (c.toNat - '0'.toNat)
  else if 'a' ≤ c ∧ c ≤ 'f' then some (c.toNat - 'a'.toNat + 10)
  else if 'A' ≤ c ∧ c ≤ 'F' then some (c.toNat - 'A'.toNat + 10)
  else none

/-- The text with its escapes of characters in ASCII decoded. -/
def percentDecode : List Char → List Char
  | '%' :: high :: low :: rest =>
      match hexDigit high, hexDigit low with
      | some high', some low' =>
          if high' < 8 then
            Char.ofNat (16 * high' + low') :: percentDecode rest
          else
            '%' :: high :: low :: percentDecode rest
      | _, _ => '%' :: percentDecode (high :: low :: rest)
  | c :: rest => c :: percentDecode rest
  | [] => []

/-- The segments that a server sees. -/
def segments (path : List Char) : List (List Char) :=
  let written := (path.takeWhile (· != '#')).takeWhile (· != '?')
  let kept := removeDots (written.splitOn '/')
  (percentDecode (['/'].intercalate kept)).splitOn '/'

/-- A segment that stands for itself. -/
structure Plain (segment : List Char) : Prop where
  slash : '/' ∉ segment
  query : '?' ∉ segment
  fragment : '#' ∉ segment
  escape : '%' ∉ segment
  dot : segment ≠ ['.']
  dots : segment ≠ ['.', '.']

instance (segment : List Char) : Decidable (Plain segment) :=
  decidable_of_iff ('/' ∉ segment ∧ '?' ∉ segment ∧ '#' ∉ segment ∧ '%' ∉ segment
      ∧ segment ≠ ['.'] ∧ segment ≠ ['.', '.'])
    ⟨fun ⟨slash, query, fragment, escape, dot, dots⟩ =>
        ⟨slash, query, fragment, escape, dot, dots⟩,
      fun h => ⟨h.slash, h.query, h.fragment, h.escape, h.dot, h.dots⟩⟩

/-- What may follow the path: nothing, a query or a fragment. -/
def Suffix (rest : List Char) : Prop :=
  rest = [] ∨ ∃ c tail, (c = '?' ∨ c = '#') ∧ rest = c :: tail

section Plain

variable {path : List (List Char)}

theorem not_mem_intercalate {c : Char} (hc : c ≠ '/') (h : ∀ segment ∈ path, c ∉ segment) :
  c ∉ ['/'].intercalate path
  := by
  induction path with
  | nil => simp
  | cons segment path ih =>
      rw [List.forall_mem_cons] at h
      cases path with
      | nil => simpa using h.1
      | cons segment' path =>
          rw [List.intercalate_cons_cons, List.mem_append, List.mem_append, List.mem_singleton]
          rintro ((hmem | rfl) | hmem)
          · apply h.1 hmem
          · apply hc rfl
          · apply ih h.2 hmem

theorem removeDots_plain (h : ∀ segment ∈ path, Plain segment) :
  removeDots path = path
  := by
  have hfold : ∀ kept : List (List Char),
      path.foldl (fun kept segment =>
        if segment = ['.'] then kept
        else if segment = ['.', '.'] then if kept = [[]] then kept else kept.tail
        else segment :: kept) kept = path.reverse ++ kept := by
    induction path with
    | nil => simp
    | cons segment path ih =>
        intro kept
        rw [List.forall_mem_cons] at h
        rw [List.foldl_cons, if_neg h.1.dot, if_neg h.1.dots, ih h.2]
        simp
  rw [removeDots, hfold, List.append_nil, List.reverse_reverse]

theorem percentDecode_plain {text : List Char} (h : '%' ∉ text) :
  percentDecode text = text
  := by
  induction text with
  | nil => rfl
  | cons c text ih =>
      rw [List.mem_cons, not_or] at h
      rw [percentDecode, ih h.2]
      intro _ _ _ hc
      exact absurd hc.symm h.1

theorem takeWhile_suffix {text rest : List Char} (hquery : '?' ∉ text) (hfragment : '#' ∉ text)
    (hrest : Suffix rest) :
  (((text ++ rest).takeWhile (· != '#')).takeWhile (· != '?')) = text
  := by
  have htext : ∀ c ∈ text, (c != '#') = true := by
    intro c hc
    rw [bne_iff_ne]
    rintro rfl
    apply hfragment hc
  have htext' : ∀ c ∈ text, (c != '?') = true := by
    intro c hc
    rw [bne_iff_ne]
    rintro rfl
    apply hquery hc
  rw [List.takeWhile_append_of_pos htext, List.takeWhile_append_of_pos htext']
  rcases hrest with rfl | ⟨c, tail, rfl | rfl, rfl⟩
  · simp
  · simp
  · simp

/-- Plain segments are seen as they are written, with any query or fragment. -/
theorem segments_join {rest : List Char} (hne : path ≠ [])
    (h : ∀ segment ∈ path, Plain segment) (hrest : Suffix rest) :
  segments (['/'].intercalate path ++ rest) = path
  := by
  have hsplit : (['/'].intercalate path).splitOn '/' = path :=
    List.splitOn_intercalate '/' (fun segment hsegment => (h segment hsegment).slash) hne
  have hquery := not_mem_intercalate (by decide) (fun segment hmem => (h segment hmem).query)
  have hfragment :=
    not_mem_intercalate (by decide) (fun segment hmem => (h segment hmem).fragment)
  have hescape := not_mem_intercalate (by decide) (fun segment hmem => (h segment hmem).escape)
  rw [segments, takeWhile_suffix hquery hfragment hrest, hsplit, removeDots_plain h,
    percentDecode_plain hescape, hsplit]

end Plain

end UrlPath
