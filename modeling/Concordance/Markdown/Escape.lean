import Concordance.Html.Entity
import Concordance.Text.Symbol
import Concordance.Url.Percent

/-!
# Escapes

A symbol loses its meaning behind a backslash, and a character can be written by its name or its
number between an ampersand and a semicolon.
-/

namespace Concordance.Markdown

open Text

/-! ## Character references -/

/-- The name in front of a semicolon, for a text that stands behind an ampersand. -/
def referenceName? : Text → Option Text
  | [] => none
  | c :: t =>
    let tail := t.takeWhile Char.isAlphanum
    if (c.isAlpha || c == '#') && 1 ≤ tail.length && tail.length ≤ 31 &&
        (t.drop tail.length).head? = some ';' then some (c :: tail)
    else none

/-- The value of digits in a base. -/
def valueOf (base : Nat) (ds : Text) : Nat :=
  ds.foldl (fun n d => base * n + Url.hexValue d) 0

/-- The number that a name writes, with at most so many decimal or hexadecimal digits. -/
def referenceNumber? (decimal hexadecimal : Nat) : Text → Option Nat
  | '#' :: ds =>
    match ds with
    | [] => none
    | x :: hs =>
      if x = 'x' ∨ x = 'X' then
        if hs ≠ [] ∧ hs.length ≤ hexadecimal ∧ hs.all Url.isHexDigit then some (valueOf 16 hs)
        else none
      else if ds.length ≤ decimal ∧ ds.all Char.isDigit then some (valueOf 10 ds)
      else none
  | _ => none

/-- A number that may stand for a character: no half of a pair, no control character, and no code
point that is set aside. -/
def isCharacterNumber (n : Nat) : Bool :=
  !(0xD800 ≤ n && n ≤ 0xDFFF) && !(0xFDD0 ≤ n && n ≤ 0xFDEF) && n % 0x10000 != 0xFFFF &&
    n % 0x10000 != 0xFFFE && !(n ≤ 8) && n != 0x0B && !(0x0E ≤ n && n ≤ 0x1F) &&
    !(0x7F ≤ n && n ≤ 0x9F) && n ≤ 0x10FFFF

/-- The characters that a reference stands for in running text, where a number that stands for no
character becomes a replacement character. -/
def referenceInText? (name : Text) : Option Text :=
  match referenceNumber? 7 6 name with
  | some n => some [if isCharacterNumber n then Char.ofNat n else '\ufffd']
  | none => Html.namedCharacters? name

/-- The characters that a reference stands for in a link or a label of code, where a number that
stands for no character is left as it is. -/
def referenceInLink? (name : Text) : Option Text :=
  match Html.namedCharacters? name with
  | some cs => some cs
  | none =>
    (referenceNumber? 8 8 name).bind fun n =>
      if isCharacterNumber n then some [Char.ofNat n] else none

/-! ## Escapes in links -/

/-- Resolve escapes and references; `skip` characters at the front belong to one that has been
resolved. -/
def unescapeFrom (skip : Nat) : Text → Text
  | [] => []
  | c :: t =>
    if 0 < skip then unescapeFrom (skip - 1) t
    else if c = '\\' then
      match t with
      | d :: _ => if isAsciiSymbol d then d :: unescapeFrom 1 t else c :: unescapeFrom 0 t
      | [] => [c]
    else if c = '&' then
      match referenceName? t with
      | some name =>
        match referenceInLink? name with
        | some cs => cs ++ unescapeFrom (name.length + 1) t
        | none => c :: unescapeFrom 0 t
      | none => c :: unescapeFrom 0 t
    else c :: unescapeFrom 0 t

/-- Resolve the escapes and references of a destination or a title. -/
def unescape (t : Text) : Text := unescapeFrom 0 t

end Concordance.Markdown
