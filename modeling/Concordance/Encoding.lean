import Concordance.Text.Case

/-!
# Encodings of text

How bytes are decoded.  The encodings that have names here are decoded here; how any other encoding
is decoded is a function that is given.  A failure says which bytes could not be decoded, and why,
or that an encoding refuses the bytes as a whole.
-/

namespace Concordance

/-- An encoding of text in bytes. -/
inductive Encoding where
  | utf8
  /-- With an optional mark at the start, which is no part of the text. -/
  | utf8Marked
  | latin1
  | ascii
  deriving DecidableEq, Repr

namespace Encoding

/-- The names of the encodings, with letters in lower case and words joined by underscores. -/
def names : List (String × Encoding) :=
  [("utf_8", .utf8), ("utf8", .utf8), ("u8", .utf8), ("utf", .utf8), ("cp65001", .utf8),
    ("utf_8_sig", .utf8Marked), ("latin_1", .latin1), ("latin1", .latin1), ("latin", .latin1),
    ("l1", .latin1), ("iso_8859_1", .latin1), ("iso8859_1", .latin1), ("iso8859", .latin1),
    ("8859", .latin1), ("cp819", .latin1), ("ascii", .ascii), ("us_ascii", .ascii),
    ("646", .ascii)]

/-- The encoding of a name; letter case does not matter, and hyphens and spaces count as
underscores. -/
def ofName? (n : Text) : Option Encoding :=
  names.lookup (String.ofList
    ((Text.lower n).map fun c => if c = '-' ∨ c = ' ' then '_' else c))

/-! ## Failures -/

/-- Why bytes could not be decoded. -/
inductive Reason where
  | startByte
  | continuationByte
  | endOfData
  | notAscii
  /-- What an encoding says that has no name here. -/
  | other (words : Text)
  deriving DecidableEq, Repr

/-- The bytes from `start` to before `stop` could not be decoded; `byte` is the first of them. -/
structure Fault where
  start : Nat
  stop : Nat
  byte : Nat
  reason : Reason
  deriving DecidableEq, Repr

/-- Why there is no text for some bytes. -/
inductive Refusal where
  /-- Some of the bytes could not be decoded; the encoding is called `codec` in messages. -/
  | bytes (codec : Text) (fault : Fault)
  /-- The bytes are refused as a whole, for instance because they do not begin with a mark. -/
  | whole (message : Text)
  deriving DecidableEq, Repr

/-- How bytes are decoded in an encoding. -/
abbrev Decoder := List Nat → Except Refusal Text

/-! ## Decoding -/

/-- A byte that continues a character. -/
def isContinuation (b : Nat) : Bool := 0x80 ≤ b && b < 0xC0

/-- Whether `b` may follow the first byte `a` of a character of three or four bytes: the shorter
forms, the surrogates and what lies beyond the last code point are excluded. -/
def maySecond (a b : Nat) : Bool :=
  isContinuation b &&
    (if a = 0xE0 then 0xA0 ≤ b else if a = 0xED then b < 0xA0
      else if a = 0xF0 then 0x90 ≤ b else if a = 0xF4 then b < 0x90 else true)

/-- What stands at the front of some bytes. -/
inductive Front where
  | char (code width : Nat)
  /-- The first `width` bytes are at fault. -/
  | fault (width : Nat) (reason : Reason)

/-- Read the character of several bytes that begins with `a`, with `rest` behind it. -/
def front (a : Nat) (rest : List Nat) : Front :=
  if a < 0xC2 then .fault 1 .startByte
  else if a < 0xE0 then
    match rest with
    | [] => .fault 1 .endOfData
    | b :: _ =>
      if isContinuation b then .char ((a - 0xC0) * 64 + (b - 0x80)) 2
      else .fault 1 .continuationByte
  else if a < 0xF0 then
    match rest with
    | [] => .fault 1 .endOfData
    | b :: rest =>
      if !maySecond a b then .fault 1 .continuationByte
      else match rest with
        | [] => .fault 2 .endOfData
        | c :: _ =>
          if isContinuation c then
            .char ((a - 0xE0) * 4096 + (b - 0x80) * 64 + (c - 0x80)) 3
          else .fault 2 .continuationByte
  else if a < 0xF5 then
    match rest with
    | [] => .fault 1 .endOfData
    | b :: rest =>
      if !maySecond a b then .fault 1 .continuationByte
      else match rest with
        | [] => .fault 2 .endOfData
        | c :: rest =>
          if !isContinuation c then .fault 2 .continuationByte
          else match rest with
            | [] => .fault 3 .endOfData
            | d :: _ =>
              if isContinuation d then
                .char ((a - 0xF0) * 262144 + (b - 0x80) * 4096 + (c - 0x80) * 64 + (d - 0x80)) 4
              else .fault 3 .continuationByte
  else .fault 1 .startByte

/-- Decode bytes in which a character takes one to four bytes; `skip` bytes at the front belong to
a character that has been read. -/
def decodeUtf8From (skip offset : Nat) : List Nat → Except Fault Text
  | [] => .ok []
  | b :: bs =>
    if 0 < skip then decodeUtf8From (skip - 1) (offset + 1) bs
    else if b < 0x80 then (decodeUtf8From 0 (offset + 1) bs).map (Char.ofNat b :: ·)
    else match front b bs with
      | .char code width =>
        (decodeUtf8From (width - 1) (offset + 1) bs).map (Char.ofNat code :: ·)
      | .fault width reason => .error ⟨offset, offset + width, b, reason⟩

/-- Decode bytes each of which is one of the first 128 characters. -/
def decodeAsciiFrom (offset : Nat) : List Nat → Except Fault Text
  | [] => .ok []
  | b :: bs =>
    if b < 0x80 then (decodeAsciiFrom (offset + 1) bs).map (Char.ofNat b :: ·)
    else .error ⟨offset, offset + 1, b, .notAscii⟩

/-- Drop the mark at the start of some bytes; a beginning of the mark that is all there is counts
as the mark. -/
def dropMark (bs : List Nat) : List Nat :=
  let mark := [0xEF, 0xBB, 0xBF]
  if mark.isPrefixOf bs then bs.drop 3 else if bs.isPrefixOf mark then [] else bs

/-- Decode bytes. -/
def decode (e : Encoding) (bs : List Nat) : Except Fault Text :=
  match e with
  | .utf8 => decodeUtf8From 0 0 bs
  | .utf8Marked => decodeUtf8From 0 0 (dropMark bs)
  | .latin1 => .ok (bs.map Char.ofNat)
  | .ascii => decodeAsciiFrom 0 bs

/-- The name of an encoding in messages. -/
def shownName : Encoding → Text
  | .utf8 | .utf8Marked => "utf-8".toList
  | .latin1 => "latin-1".toList
  | .ascii => "ascii".toList

/-- How bytes are decoded in an encoding that has a name here. -/
def decoder (e : Encoding) : Decoder := fun bs => (e.decode bs).mapError (.bytes e.shownName)

/-- Why bytes could not be decoded, in words. -/
def Reason.message : Reason → Text
  | .startByte => "invalid start byte".toList
  | .continuationByte => "invalid continuation byte".toList
  | .endOfData => "unexpected end of data".toList
  | .notAscii => "ordinal not in range(128)".toList
  | .other words => words

/-- A byte in two hexadecimal digits. -/
def hexByte (b : Nat) : Text := (if b < 16 then ['0'] else []) ++ Nat.toDigits 16 b

/-- What is said about bytes that could not be decoded. -/
def Fault.message (codec : Text) (f : Fault) : Text :=
  ['\x27'] ++ codec ++ "' codec can't decode ".toList ++
    (if f.stop = f.start + 1 then
      "byte 0x".toList ++ hexByte f.byte ++ " in position ".toList ++ Text.ofInt f.start
    else
      "bytes in position ".toList ++ Text.ofInt f.start ++ ['-'] ++
        Text.ofInt (f.stop - 1 : Nat)) ++
    ": ".toList ++ f.reason.message

end Encoding

end Concordance
