import Concordance.Markdown.Span
import Concordance.Text.Symbol

/-!
# Emphasis

Rows of asterisks or low lines begin and end emphasis.  What a row may do depends on the characters
beside it; each sign that may end emphasis looks for the nearest sign that may have begun it, and
what was begun between the two is plain text.
-/

namespace Concordance.Markdown

open Text

/-! ## Rows of signs -/

/-- A row of equal signs. -/
structure SignRow where
  sign : Char
  length : Nat
  /-- Whether its signs may begin emphasis. -/
  opens : Bool
  /-- Whether its signs may end emphasis. -/
  closes : Bool
  deriving DecidableEq, Repr

/-- Whether a character is white space beside a row of signs. -/
def isWhite (c : Char) : Bool :=
  let n := c.toNat
  (9 ≤ n && n ≤ 13) || n = 0x20 || n = 0xA0 || n = 0x1680 || (0x2000 ≤ n && n ≤ 0x200A) ||
    n = 0x202F || n = 0x205F || n = 0x3000

/-- The row of `length` signs between two characters.  A row belongs to what stands beside it
unless there is white space, or a symbol where the other side has neither; a low line inside a word
does nothing. -/
def SignRow.between (sign : Char) (length : Nat) (before after : Char) : SignRow :=
  let left := !isWhite after && (!isSymbol after || isWhite before || isSymbol before)
  let right := !isWhite before && (!isSymbol before || isWhite after || isSymbol after)
  { sign := sign
    length := length
    opens := left && (sign == '*' || !right || isSymbol before)
    closes := right && (sign == '*' || !left || isSymbol after) }

/-- Whether a sign of one row may begin what a sign of another ends.  Where one of the rows may do
both, their lengths must not add up to a multiple of three, unless both are multiples of three. -/
def SignRow.pairsWith (opener closer : SignRow) : Bool :=
  opener.sign == closer.sign &&
    (!(opener.closes || closer.opens) || (opener.length + closer.length) % 3 != 0 ||
      (opener.length % 3 == 0 && closer.length % 3 == 0))

/-! ## Pairing -/

/-- A piece of running text in which emphasis has not been found yet. -/
inductive Piece where
  | span (s : Span)
  | signs (r : SignRow)

/-- A sign that may begin emphasis, with the spans behind it, the last one first. -/
structure OpenSign where
  row : SignRow
  body : List Span

/-- The spans read so far, the last one first: those before all open signs, and the open signs, the
innermost first. -/
structure Pairing where
  before : List Span := []
  signs : List OpenSign := []

namespace Pairing

/-- Add a span. -/
def add (p : Pairing) (s : Span) : Pairing :=
  match p.signs with
  | [] => { p with before := s :: p.before }
  | o :: os => { p with signs := { o with body := s :: o.body } :: os }

/-- Open signs that nothing has ended, as text, with the spans behind them; the last one first. -/
def unpaired (os : List OpenSign) : List Span :=
  os.flatMap fun o => o.body ++ [Span.text [o.row.sign]]

/-- Emphasis around spans; emphasis around nothing but emphasis with the same sign is strong. -/
def emphasize (sign : Char) (body : List Span) : Span :=
  match body with
  | [.emphasis inner spans] => if inner = sign then .strong spans else .emphasis sign body
  | _ => .emphasis sign body

/-- Read `count` signs of a row; the innermost `own` open signs belong to the same row. -/
def readSigns (r : SignRow) : (count own : Nat) → Pairing → Pairing
  | 0, _, p => p
  | n + 1, own, p =>
    let inner :=
      if r.closes then (p.signs.drop own).takeWhile (fun o => !o.row.pairsWith r) else []
    match (if r.closes then p.signs.drop (own + inner.length) else []) with
    | o :: os =>
      let body := unpaired (p.signs.take (own + inner.length)) ++ o.body
      readSigns r n 0 (add { p with signs := os } (emphasize r.sign body.reverse))
    | [] =>
      if r.opens then readSigns r n (own + 1) { p with signs := ⟨r, []⟩ :: p.signs }
      else readSigns r n own (p.add (.text [r.sign]))

/-- Read a piece. -/
def read (p : Pairing) : Piece → Pairing
  | .span s => p.add s
  | .signs r => readSigns r r.length 0 p

/-- The spans that have been read. -/
def spans (p : Pairing) : List Span := (unpaired p.signs ++ p.before).reverse

end Pairing

/-- Find the emphasis in pieces of running text. -/
def spansOf (ps : List Piece) : List Span := (ps.foldl Pairing.read {}).spans

end Concordance.Markdown
