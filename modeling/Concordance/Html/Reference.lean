import Concordance.Html.Entity
import Concordance.Url.Percent

/-!
# Character references in markup

A character may be written by its number or its name behind an ampersand.  Some old names are
understood without a semicolon, even as the beginning of a longer word; but not inside the value of
an attribute, where the word may belong to a link.
-/

namespace Concordance.Html

open Text

/-! ## Numbers -/

/-- The characters that the numbers from 128 to 159 stand for. -/
def oldNumbers : List Nat :=
  [0x20AC, 0x81, 0x201A, 0x192, 0x201E, 0x2026, 0x2020, 0x2021, 0x2C6, 0x2030, 0x160, 0x2039,
    0x152, 0x8D, 0x17D, 0x8F, 0x90, 0x2018, 0x2019, 0x201C, 0x201D, 0x2022, 0x2013, 0x2014, 0x2DC,
    0x2122, 0x161, 0x203A, 0x153, 0x9D, 0x17E, 0x178]

/-- The character that a number stands for; a number of no character stands for the replacement
character. -/
def numberedCharacter (n : Nat) : Char :=
  if n = 0 then '\ufffd'
  else if 0x80 ≤ n ∧ n < 0xA0 then Char.ofNat ((oldNumbers[n - 0x80]?).getD n)
  else if h : n.isValidChar then Char.ofNatAux n h
  else '\ufffd'

/-- The number in front of a text, written in a base, with what is behind it; a semicolon belongs
to the number. -/
def number? (base : Nat) (isDigit : Char → Bool) (t : Text) : Option (Nat × Text) :=
  let ds := t.takeWhile isDigit
  let r := t.drop ds.length
  if ds = [] then none
  else some (ds.foldl (fun n d => base * n + Url.hexValue d) 0,
    if r.head? = some ';' then r.drop 1 else r)

/-! ## References -/

/-- The longest name without a semicolon in front of a text, and what is behind it. -/
def bareName? (t : Text) : Option (Text × Text) :=
  let word := t.takeWhile Char.isAlphanum
  let lengths := (List.range (word.length + 1)).reverse
  (lengths.find? fun n => bareEntityNames.contains (String.ofList (word.take n))).map fun n =>
    (word.take n, t.drop n)

/-- The characters of the reference in front of a text that stands behind an ampersand, and what is
behind it. -/
def reference? (inAttribute : Bool) (t : Text) : Option (Text × Text) :=
  match t with
  | '#' :: 'x' :: r => (number? 16 Url.isHexDigit r).map fun (n, r) => ([numberedCharacter n], r)
  | '#' :: 'X' :: r => (number? 16 Url.isHexDigit r).map fun (n, r) => ([numberedCharacter n], r)
  | '#' :: r => (number? 10 Char.isDigit r).map fun (n, r) => ([numberedCharacter n], r)
  | _ =>
    let word := t.takeWhile Char.isAlphanum
    match t.drop word.length, namedCharacters? word with
    | ';' :: r, some cs => some (cs, r)
    | _, _ =>
      (bareName? t).bind fun (name, r) =>
        if inAttribute && r.head?.any (fun c => c = '=' || c.isAlphanum) then none
        else (namedCharacters? name).map fun cs => (cs, r)

/-- Resolve the references in a text; `skip` characters at the front belong to one that has been
resolved. -/
def resolveFrom (inAttribute : Bool) (skip : Nat) : Text → Text
  | [] => []
  | c :: t =>
    if 0 < skip then resolveFrom inAttribute (skip - 1) t
    else if c = '&' then
      match reference? inAttribute t with
      | some (cs, r) => cs ++ resolveFrom inAttribute (t.length - r.length) t
      | none => c :: resolveFrom inAttribute 0 t
    else c :: resolveFrom inAttribute 0 t

/-- Resolve the references in running text. -/
def resolve (t : Text) : Text := resolveFrom false 0 t

/-- Resolve the references in the value of an attribute. -/
def resolveValue (t : Text) : Text := resolveFrom true 0 t

end Concordance.Html
