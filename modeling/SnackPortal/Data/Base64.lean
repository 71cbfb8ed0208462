import Mathlib.Data.List.Basic

/-!
# URL-safe Base64

`base64.urlsafe_b64decode` of an ASCII text.  Characters outside of the alphabet are passed over,
the alphabet has `+` and `/` next to `-` and `_`, and what follows the padding is not read.
-/

namespace Base64

/-- The six bits of a character of the alphabet. -/
def sextet (c : Char) : Option Nat :=
  let n := c.toNat
  if 'A'.toNat ≤ n ∧ n ≤ 'Z'.toNat then some (n - 'A'.toNat)
  else if 'a'.toNat ≤ n ∧ n ≤ 'z'.toNat then some (n - 'a'.toNat + 26)
  else if '0'.toNat ≤ n ∧ n ≤ '9'.toNat then some (n - '0'.toNat + 52)
  else if c = '-' ∨ c = '+' then some 62
  else if c = '_' ∨ c = '/' then some 63
  else none

/-- `binascii.a2b_base64`, with the place in the quadruple, the bits left over of it, the number
of paddings in it, and the bytes so far, the latest first. -/
def a2b : Nat → Nat → Nat → List UInt8 → List Char → Option (List UInt8)
  | quad, _, _, bytes, [] => if quad = 0 then some bytes.reverse else none
  | quad, left, pads, bytes, c :: text =>
      if c = '=' then
        if 2 ≤ quad then
          -- the padding is complete
          if 4 ≤ quad + (pads + 1) then some bytes.reverse
          else a2b quad left (pads + 1) bytes text
        else a2b quad left pads bytes text
      else
        match sextet c with
        | none => a2b quad left pads bytes text
        | some bits =>
            match quad with
            | 0 => a2b 1 bits 0 bytes text
            | 1 => a2b 2 (bits % 16) 0 (UInt8.ofNat (left * 4 + bits / 16) :: bytes) text
            | 2 => a2b 3 (bits % 4) 0 (UInt8.ofNat (left * 16 + bits / 4) :: bytes) text
            | _ => a2b 0 0 0 (UInt8.ofNat (left * 64 + bits) :: bytes) text

/-- `base64.urlsafe_b64decode`; `none` where it raises. -/
def urlsafeB64decode (text : List Char) : Option (List UInt8) :=
  if text.all fun c => c.toNat < 128 then a2b 0 0 0 [] text else none

example : urlsafeB64decode "eyJhIjoxfQ==".toList = some [123, 34, 97, 34, 58, 49, 125] := by
  decide

end Base64
