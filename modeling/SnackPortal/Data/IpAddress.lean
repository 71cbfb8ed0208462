import SnackPortal.Data.Text

/-!
# Address literals

Which texts are literals of an address, in the dotted notation of four octets or in the
notation of eight groups with at most one gap.
-/

namespace IpAddress

open Text

def isDigit (c : Char) : Bool :=
  '0' ≤ c && c ≤ '9'

def isHexDigit (c : Char) : Bool :=
  isDigit c || ('a' ≤ c && c ≤ 'f') || ('A' ≤ c && c ≤ 'F')

/-- One octet: one to three digits without a leading zero, of at most 255. -/
def isOctet (text : String) : Bool :=
  text ≠ "" && text.toList.all isDigit && text.length ≤ 3
    && (text = "0" || text.toList.head? ≠ some '0')
    && text.toList.foldl (fun n c => 10 * n + (c.toNat - 48)) 0 ≤ 255

/-- `ipaddress.IPv4Address`. -/
def isIPv4 (text : String) : Bool :=
  (split '.' text).length = 4 && (split '.' text).all isOctet

/-- One group: one to four hexadecimal digits. -/
def isHextet (text : String) : Bool :=
  text ≠ "" && text.toList.all isHexDigit && text.length ≤ 4

/-- The groups, with those of a trailing address of four octets. -/
def hextets (text : String) : Option (List String) :=
  let parts := split ':' text
  if parts.length < 3 then
    none
  else
    match parts.getLast? with
    | none => none
    | some last =>
        if contains last "." then
          if isIPv4 last then some (parts.dropLast ++ ["0", "0"]) else none
        else
          some parts

/-- The groups are eight, or fewer around one gap. -/
def isGrouped (parts : List String) : Bool :=
  let gaps := (List.range parts.length).filter fun i =>
    0 < i && i + 1 < parts.length && parts.getD i "" = ""
  match gaps with
  | [] => parts.length = 8 && parts.all isHextet
  | [gap] =>
      let high := if parts.getD 0 "" = "" then gap - 1 else gap
      let low := if parts.getLastD "" = "" then parts.length - gap - 2 else parts.length - gap - 1
      -- an empty first or last group only as part of the gap
      (parts.getD 0 "" ≠ "" || high = 0) && (parts.getLastD "" ≠ "" || low = 0)
        && high + low < 8
        && (parts.take high).all isHextet && (parts.drop (parts.length - low)).all isHextet
  | _ => false

/-- `ipaddress.IPv6Address`; a scope may follow a percent sign. -/
def isIPv6 (text : String) : Bool :=
  let hasScope := contains text "%"
  let scope := after '%' text
  if hasScope && (scope = "" || contains scope "%") || contains text "/" then
    false
  else
    match hextets (before '%' text) with
    | none => false
    | some parts => parts.length ≤ 9 && isGrouped parts

/-- `ipaddress.ip_address` accepts the text. -/
def isLiteral (text : String) : Bool :=
  isIPv4 text || isIPv6 text

example : isLiteral "::ffff:10.0.0.1" = true ∧ isLiteral "a.example.org" = false := by
  decide +kernel

end IpAddress
