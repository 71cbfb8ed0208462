import SnackPortal.Data.Url
import SnackPortal.SnackPortal2.Types

/-!
# Websites

The normal form of a website: with a scheme, the host folded and without a leading `www.`, no
slash at the end of the path, and no fragment.  A text that has no such form is refused, unless
the parser of URLs rejects its host before that.
-/

namespace SnackPortal2

/-- What the tables of Unicode say of a text: its case folding, and its decimal digits. -/
structure Unicode where
  casefold : String → String
  isDecimal : Char → Bool

def permittedSchemes : List String :=
  ["http", "https"]

/-- A label of a host: at most 63 letters, digits and hyphens, with no hyphen at its ends. -/
def isLabel (label : String) : Bool :=
  let chars := label.toList
  chars.length ≤ 63 && chars.all (fun c => c.isAlphanum || c == '-')
    && chars.head?.any Char.isAlphanum && chars.getLast?.any Char.isAlphanum

/-- Labels with dots between them, and perhaps a port of at most five digits. -/
def isHost (unicode : Unicode) (host : String) : Bool :=
  (Text.split '.' (Text.before ':' host)).all isLabel
    && (!Text.contains host ":"
      || (let port := (Text.after ':' host).toList
          1 ≤ port.length && port.length ≤ 5 && port.all unicode.isDecimal))

/-- `text.rstrip("/")`. -/
def withoutSlashes (text : String) : String :=
  String.ofList (text.toList.reverse.dropWhile (· == '/')).reverse

namespace Urls

open Url (urlunsplit)

/-- What `normalize_website` raises. -/
inductive Raised where
  | app (e : AppError)
  | valueError
deriving DecidableEq, Repr

/-- The text that is split: without blanks around it, and with a scheme. -/
def candidate (raw : String) : String :=
  if Text.contains (Text.strip raw) "://" then Text.strip raw else "https://" ++ Text.strip raw

/-- The host without one leading `www.`. -/
def withoutWww (host : String) : String :=
  if Text.startsWith host "www." then Text.drop host 4 else host

/-- `normalize_website`. -/
def normalizeWebsite (nfkc : String → String) (unicode : Unicode) (raw : Option String) :
    Except Raised (Option String) :=
  match raw with
  | none => .ok none
  | some raw =>
      if Text.strip raw = "" then
        .ok none
      else
        match Url.urlsplit nfkc (candidate raw) with
        | .error _ => .error .valueError
        | .ok parts =>
            if parts.scheme ∉ permittedSchemes ∨ parts.netloc = "" then
              .error (.app invalidRequest)
            else if isHost unicode (withoutWww (unicode.casefold parts.netloc)) then
              .ok (some (urlunsplit ⟨parts.scheme, withoutWww (unicode.casefold parts.netloc),
                withoutSlashes parts.path, parts.query, ""⟩))
            else
              .error (.app invalidRequest)

end Urls

end SnackPortal2
