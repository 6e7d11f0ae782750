import Concordance.Encoding

/-!
# Percent signs in links

Characters that may not stand in a link are written as the bytes of their encoding, each byte as a
percent sign and two hexadecimal digits.
-/

namespace Concordance.Url

/-- A hexadecimal digit. -/
def isHexDigit (c : Char) : Bool :=
  c.isDigit || ('a' ≤ c && c ≤ 'f') || ('A' ≤ c && c ≤ 'F')

/-- The value of a hexadecimal digit. -/
def hexValue (c : Char) : Nat :=
  if c.isDigit then c.toNat - 48
  else if 'a' ≤ c && c ≤ 'f' then c.toNat - 87
  else c.toNat - 55

/-- A byte as a percent sign and two digits. -/
def percentByte (b : Nat) : Text :=
  '%' :: ((Nat.toDigits 16 (b / 16)).map Char.toUpper ++
    (Nat.toDigits 16 (b % 16)).map Char.toUpper)

/-- The bytes of a character. -/
def bytes (c : Char) : List Nat := (String.utf8EncodeChar c).map UInt8.toNat

/-- The signs that stand for themselves in a link. -/
def linkSigns : List Char := ";/?:@&=+$,-_.!~*'()#".toList

/-- Encode a link.  A percent sign with two digits behind it is an encoded byte already. -/
def encode : Text → Text
  | [] => []
  | c :: t =>
    let head :=
      if c = '%' then
        match t with
        | a :: b :: _ => if isHexDigit a && isHexDigit b then ['%'] else percentByte 0x25
        | _ => percentByte 0x25
      else if c.isAlphanum || linkSigns.contains c then [c]
      else (bytes c).flatMap percentByte
    head ++ encode t

/-! ## Decoding -/

/-- The signs that stay encoded when a link is shown. -/
def keptSigns : List Char := ";/?:@&=+$,#%".toList

/-- Decode a row of bytes; `skip` bytes at the front belong to a character that has been read.  A
byte that belongs to no character becomes a replacement character. -/
def showBytes (skip : Nat) : List Nat → Text
  | [] => []
  | b :: bs =>
    if 0 < skip then showBytes (skip - 1) bs
    else if b < 0x80 then
      (if keptSigns.contains (Char.ofNat b) then percentByte b else [Char.ofNat b]) ++
        showBytes 0 bs
    else
      let width := if b / 32 = 6 then 2 else if b / 16 = 14 then 3 else if b / 8 = 30 then 4 else 1
      let tail := bs.take (width - 1)
      if width = 1 || tail.length < width - 1 || !tail.all Encoding.isContinuation then
        '\ufffd' :: showBytes 0 bs
      else match Encoding.front b tail with
        | .char code _ => Char.ofNat code :: showBytes (width - 1) bs
        | .fault _ _ => List.replicate width '\ufffd' ++ showBytes (width - 1) bs

/-- Decode a text; `row` holds the encoded bytes in front of it, last first. -/
def decodeFrom (row : List Nat) : Text → Text
  | '%' :: a :: b :: t =>
    if isHexDigit a && isHexDigit b then decodeFrom ((16 * hexValue a + hexValue b) :: row) t
    else showBytes 0 row.reverse ++ '%' :: decodeFrom [] (a :: b :: t)
  | c :: t => showBytes 0 row.reverse ++ c :: decodeFrom [] t
  | [] => showBytes 0 row.reverse

/-- A link as it is shown: encoded characters are decoded, except for those that have a meaning in
links. -/
def decode (t : Text) : Text := decodeFrom [] t

end Concordance.Url
