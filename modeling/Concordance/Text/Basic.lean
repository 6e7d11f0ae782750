/-!
# Text

A text is a list of characters, so that a statement about a text is a statement about a list.  This
file holds the blank characters and the cuts that the rest of the library makes: trimming, words,
runs, pieces between separators, and lines.
-/

namespace Concordance

/-- A text is its sequence of code points. -/
abbrev Text := List Char

instance : LawfulBEq Text := inferInstanceAs (LawfulBEq (List Char))

namespace Text

/-! ## Blank characters -/

/-- A blank: the white space of every script, and the four separators U+001C to U+001F. -/
def isBlank (c : Char) : Bool :=
  let n := c.toNat
  (9 ≤ n && n ≤ 13) || (28 ≤ n && n ≤ 32) || n == 0x85 || n == 0xA0 || n == 0x1680 ||
    (0x2000 ≤ n && n ≤ 0x200A) || n == 0x2028 || n == 0x2029 || n == 0x202F || n == 0x205F ||
    n == 0x3000

/-- Whether a text holds nothing but blanks. -/
def isBlankText (t : Text) : Bool := t.all isBlank

/-! ## Trimming -/

/-- Drop the longest tail whose characters all satisfy `p`. -/
def dropTailWhile (p : Char → Bool) (t : Text) : Text := (t.reverse.dropWhile p).reverse

/-- Drop the characters that satisfy `p` from both ends. -/
def trimBy (p : Char → Bool) (t : Text) : Text := dropTailWhile p (t.dropWhile p)

/-- Drop the blanks from both ends. -/
def trim (t : Text) : Text := trimBy isBlank t

/-! ## Pieces -/

/-- Put a character in front of the first piece. -/
def consFirst (c : Char) : List Text → List Text
  | [] => [[c]]
  | p :: ps => (c :: p) :: ps

/-- The pieces of a text between the occurrences of `sep`; there is always at least one. -/
def splitOn (sep : Char) : Text → List Text
  | [] => [[]]
  | c :: t => if c = sep then [] :: splitOn sep t else consFirst c (splitOn sep t)

/-- Join pieces with `sep` between neighbours. -/
def joinWith (sep : Text) : List Text → Text
  | [] => []
  | [p] => p
  | p :: ps => p ++ sep ++ joinWith sep ps

/-- The maximal runs of characters that satisfy `p`, in order; `run` holds the characters of a run
that stand directly before the text, the last one first. -/
def runsFrom (p : Char → Bool) (run : Text) : Text → List Text
  | [] => if run.isEmpty then [] else [run.reverse]
  | c :: t =>
    if p c then runsFrom p (c :: run) t
    else if run.isEmpty then runsFrom p [] t
    else run.reverse :: runsFrom p [] t

/-- The maximal runs of characters that satisfy `p`, in order. -/
def runs (p : Char → Bool) (t : Text) : List Text := runsFrom p [] t

/-- The words of a text: its maximal runs of characters that are not blank. -/
def words (t : Text) : List Text := runs (fun c => !isBlank c) t

/-- The part before the first occurrence of `sep`, and the part after it (empty if there is
none). -/
def cut (sep : Char) (t : Text) : Text × Text :=
  (t.takeWhile (· != sep), (t.dropWhile (· != sep)).drop 1)

/-! ## Lines -/

/-- The lines of a text, cut at each `\r\n`, `\r` and `\n`; there is always at least one. -/
def lines : Text → List Text
  | [] => [[]]
  | '\r' :: '\n' :: t => [] :: lines t
  | c :: t => if c = '\r' ∨ c = '\n' then [] :: lines t else consFirst c (lines t)

/-- Lines joined by line feeds. -/
def unlines (ls : List Text) : Text := joinWith ['\n'] ls

/-- Every line break written as a line feed. -/
def normalizeBreaks (t : Text) : Text := unlines (lines t)

/-! ## Search and replacement -/

/-- Whether `p` begins the text. -/
def startsWith (p t : Text) : Bool := p.isPrefixOf t

/-- Whether `p` ends the text. -/
def endsWith (p t : Text) : Bool := p.isSuffixOf t

/-- Each occurrence of `c` replaced by `r`. -/
def replaceChar (c : Char) (r : Text) (t : Text) : Text :=
  t.flatMap fun d => if d = c then r else [d]

/-- The decimal digits of an integer, with a minus sign if it is negative. -/
def ofInt : Int → Text
  | .ofNat n => Nat.toDigits 10 n
  | .negSucc n => '-' :: Nat.toDigits 10 (n + 1)

end Text

end Concordance
