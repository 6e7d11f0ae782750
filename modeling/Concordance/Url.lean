import Concordance.Url.Percent
import Concordance.Url.Punycode

/-!
# Links

The destination of a link is taken apart far enough to find its host name, which is written in the
first 128 characters where that is the custom, and put together again with everything else encoded.
-/

namespace Concordance

open Text

/-- The parts of a link. -/
structure Url where
  /-- The scheme with its colon, if any. -/
  scheme : Text := []
  /-- Whether two slashes stand before the host. -/
  slashes : Bool := false
  /-- What stands before the host and an at sign. -/
  user : Text := []
  host : Text := []
  /-- The digits between the host's colon and the path. -/
  digits : Text := []
  /-- The path, the query and the fragment. -/
  rest : Text := []

namespace Url

/-! ## Taking apart -/

/-- A character of a scheme. -/
def isSchemeChar (c : Char) : Bool := c.isAlphanum || c == '.' || c == '+' || c == '-'

/-- The scheme with its colon, and what is behind it. -/
def splitScheme (t : Text) : Text × Text :=
  let s := t.takeWhile isSchemeChar
  match s, t.dropWhile isSchemeChar with
  | _ :: _, ':' :: r => (s ++ [':'], r)
  | _, _ => ([], t)

/-- Schemes whose links have a host only behind two slashes. -/
def slashedSchemes : List Text :=
  ["http:", "https:", "ftp:", "gopher:", "file:"].map String.toList

/-- Schemes whose links have no host. -/
def hostlessSchemes : List Text := ["javascript:".toList]

/-- A character that no host holds. -/
def endsHost (c : Char) : Bool :=
  "%/?;#'".toList.contains c || c == '\x7b' || c == '\x7d' || "|\\^".toList.contains c ||
    c == '\x60' || "<>\" \r\n\t".toList.contains c

/-- A character of a part of a host name. -/
def isHostChar (c : Char) : Bool := c.isAlphanum || c == '+' || c == '_' || c == '-'

/-- The part of a link before the last at sign that stands before its path, and what is behind the
sign. -/
def splitUser (t : Text) : Text × Text :=
  let front := t.takeWhile fun c => c != '/' && c != '?' && c != '#'
  if front.contains '@' then
    let host := (front.reverse.takeWhile (· != '@')).reverse
    let user := front.take (front.length - host.length - 1)
    (user, t.drop (user.length + 1))
  else ([], t)

/-- The part of a link before its path, and what is behind it.  A colon that ends the part is left
to the path; where the part is empty and the link ends with a colon, all before that colon is the
part. -/
def splitHost (t : Text) : Text × Text :=
  match t.takeWhile fun c => !endsHost c with
  | [] => if t.getLast? = some ':' then (t.dropLast, [':']) else ([], t)
  | front =>
    let front := if front.getLast? = some ':' then front.dropLast else front
    (front, t.drop front.length)

/-- A host, and the digits behind its last colon. -/
def splitDigits (t : Text) : Text × Text :=
  let digits := (t.reverse.takeWhile Char.isDigit).reverse
  let front := t.take (t.length - digits.length)
  if front.getLast? = some ':' then (front.dropLast, digits) else (t, [])

/-- Keep the parts of a host name up to the first that cannot be part of one, of which the
beginning is kept; the second component is what was cut off. -/
def validHost : List Text → List Text × Option Text
  | [] => ([], none)
  | p :: ps =>
    let shape := p.map fun c => if 127 < c.toNat then 'x' else c
    if p = [] || (shape.length ≤ 63 && shape.all isHostChar) then
      let (kept, cut) := validHost ps
      (p :: kept, cut)
    else
      let head := (p.take 63).takeWhile isHostChar
      ([head], some (joinWith ['.'] (p.drop head.length :: ps)))

/-- Take a link apart. -/
def parse (t : Text) : Url :=
  let (scheme, r) := splitScheme (trim t)
  let hostless := hostlessSchemes.contains scheme
  let slashes := startsWith ['/', '/'] r && !hostless
  let r := if slashes then r.drop 2 else r
  if hostless || !(slashes || (scheme ≠ [] && !slashedSchemes.contains scheme)) then
    { scheme := scheme, slashes := slashes, rest := r }
  else
    let (user, r) := splitUser r
    let (front, r) := splitHost r
    let (host, digits) := splitDigits front
    if host.head? = some '[' && host.getLast? = some ']' then
      let host := if 255 < host.length then [] else host
      { scheme := scheme, slashes := slashes, user := user, host := (host.drop 1).dropLast,
        digits := digits, rest := r }
    else
      let (kept, cut) := validHost (splitOn '.' host)
      let host := joinWith ['.'] kept
      let host := if 255 < host.length then [] else host
      { scheme := scheme, slashes := slashes, user := user, host := host, digits := digits,
        rest := cut.getD [] ++ r }

/-- Put a link together. -/
def format (u : Url) : Text :=
  u.scheme ++ (if u.slashes then ['/', '/'] else []) ++
    (if u.user = [] then [] else u.user ++ ['@']) ++
    (if u.host.contains ':' then ['['] ++ u.host ++ [']'] else u.host) ++
    (if u.digits = [] then [] else ':' :: u.digits) ++ u.rest

/-! ## Host names -/

/-- The labels of a host name. -/
def hostLabels (host : Text) : List Text :=
  splitOn '.' (host.map fun c =>
    if c = '\u3002' ∨ c = '\uff0e' ∨ c = '\uff61' then '.' else c)

/-- A host name in the first 128 characters. -/
def hostToAscii (host : Text) : Text :=
  joinWith ['.'] ((hostLabels host).map fun l =>
    if l.any (126 < ·.toNat) then "xn--".toList ++ Punycode.encode l else l)

/-- A host name as it is shown; one that cannot be decoded is left as it is. -/
def hostToShown (host : Text) : Text :=
  let labels := (hostLabels host).map fun l =>
    if startsWith "xn--".toList l then Punycode.decode ((l.drop 4).map Char.toLower) else some l
  if labels.all Option.isSome then joinWith ['.'] (labels.filterMap id) else host

/-- Change the host name where host names are written in the first 128 characters. -/
def mapHost (f : Text → Text) (u : Url) : Url :=
  let custom := u.scheme = [] ∨ u.scheme = "http:".toList ∨ u.scheme = "https:".toList ∨
    u.scheme = "mailto:".toList
  if u.host ≠ [] ∧ custom then { u with host := f u.host } else u

/-! ## Destinations -/

/-- The destination of a link as it is written to a page. -/
def normalize (t : Text) : Text := encode ((parse t).mapHost hostToAscii).format

/-- A link as it is shown to a reader. -/
def shown (t : Text) : Text := decode ((parse t).mapHost hostToShown).format

/-- The kinds of picture that may stand in a link as data. -/
def pictureData : List Text :=
  ["gif;", "png;", "jpeg;", "webp;"].map fun k => "data:image/".toList ++ k.toList

/-- Whether a page may hold a link: those that run programs or read files are refused. -/
def isAllowed (t : Text) : Bool :=
  let t := lower (trim t)
  if ["vbscript:", "javascript:", "file:", "data:"].any fun s => startsWith s.toList t then
    pictureData.any fun p => startsWith p t
  else true

end Url

end Concordance
