import Concordance.Text.Basic
import Concordance.Text.Printable

/-!
# Quoted text

A text in a message stands between single quotes, or between double quotes if it holds a single
quote and no double one.  What cannot be shown is written as an escape.
-/

namespace Concordance.Text

/-- The lower-case hexadecimal digits of a number, at least `width` of them. -/
def hexDigits (width n : Nat) : Text :=
  let ds := Nat.toDigits 16 n
  List.replicate (width - ds.length) '0' ++ ds

/-- A character inside quotes. -/
def quoteChar (mark c : Char) : Text :=
  if c = mark ∨ c = '\\' then ['\\', c]
  else if c = '\t' then ['\\', 't']
  else if c = '\n' then ['\\', 'n']
  else if c = '\r' then ['\\', 'r']
  else if isPrintable c then [c]
  else if c.toNat < 0x100 then ['\\', 'x'] ++ hexDigits 2 c.toNat
  else if c.toNat < 0x10000 then ['\\', 'u'] ++ hexDigits 4 c.toNat
  else ['\\', 'U'] ++ hexDigits 8 c.toNat

/-- A text between quotes. -/
def quote (t : Text) : Text :=
  let mark := if t.contains '\x27' && !t.contains '\x22' then '\x22' else '\x27'
  [mark] ++ t.flatMap (quoteChar mark) ++ [mark]

end Concordance.Text
