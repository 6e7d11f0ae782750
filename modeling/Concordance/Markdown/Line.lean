import Concordance.Text.Basic

/-!
# Lines and columns

A line of a document as the block it stands in sees it: the text from the block's margin on, and
how far its content is indented.  A tab reaches to the next multiple of four columns, counted from
the margin of the document, so a line remembers at which column its own text begins.
-/

namespace Concordance.Markdown

open Text

/-- A line as the block around it sees it. -/
structure Line where
  /-- The number of the line in the document, from zero. -/
  number : Nat
  /-- The text from the margin on, without a line feed. -/
  text : Text
  /-- How many characters stand before the content. -/
  shift : Nat
  /-- The column of the content; negative for a line that goes on with a paragraph although it
  stands outside the block. -/
  indent : Int
  /-- The column, up to a multiple of four, at which the text begins. -/
  base : Nat := 0
  /-- Whether a line feed ends the line. -/
  ended : Bool := true
  deriving DecidableEq, Repr

namespace Line

/-- The text behind the indentation. -/
def content (l : Line) : Text := l.text.drop l.shift

/-- Whether there is nothing behind the indentation. -/
def isEmpty (l : Line) : Bool := l.content.isEmpty

/-- The next column behind a blank, where columns are counted from `base`. -/
def advance (base column : Nat) (c : Char) : Nat :=
  if c = '\t' then column + 4 - (column + base) % 4 else column + 1

/-- A space or a tab. -/
def isIndentation (c : Char) : Bool := c == ' ' || c == '\t'

/-- How many blanks begin a text, and the column behind them. -/
def measure (base : Nat) : (column : Nat) → Text → Nat × Nat
  | column, [] => (0, column)
  | column, c :: t =>
    if isIndentation c then
      let (n, column) := measure base (advance base column c) t
      (n + 1, column)
    else (0, column)

/-- A line of the document itself. -/
def ofText (number : Nat) (text : Text) (ended : Bool) : Line :=
  let (shift, indent) := measure 0 0 text
  { number := number, text := text, shift := shift, indent := indent, ended := ended }

/-- Number the pieces of a document between its line feeds.  The last piece is a line only if it
holds more than blanks. -/
def ofPieces (n : Nat) : List Text → List Line
  | [] => []
  | [t] => if t.all isIndentation then [] else [ofText n t false]
  | t :: ts => ofText n t true :: ofPieces (n + 1) ts

/-- The lines of a document in which every line break is a line feed. -/
def ofDocument (t : Text) : List Line := ofPieces 0 (splitOn '\n' t)

/-! ## Cutting off an indentation -/

/-- Cut columns off a text until `width` of them are gone or the content is reached; `shift`
characters stand before the content.  What a tab holds beyond `width` is left as spaces. -/
def cutFrom (base width : Nat) : (shift column : Nat) → Text → Text
  | _, column, [] => List.replicate (column - width) ' '
  | shift, column, c :: t =>
    if width ≤ column then List.replicate (column - width) ' ' ++ c :: t
    else if isIndentation c then cutFrom base width (shift - 1) (advance base column c) t
    else if 0 < shift then cutFrom base width (shift - 1) (column + 1) t
    else c :: t

/-- The text of a line without its first `width` columns. -/
def cut (width : Nat) (l : Line) : Text := cutFrom l.base width l.shift 0 l.text

/-- The line feed of a line, if it has one. -/
def feed (l : Line) : Text := if l.ended then ['\n'] else []

/-- Lines without their first columns, each with its line feed. -/
def cutAll (width : Nat) (ls : List Line) : Text := ls.flatMap fun l => l.cut width ++ l.feed

/-- Lines without their first columns, joined by line feeds. -/
def cutJoined (width : Nat) (ls : List Line) : Text := joinWith ['\n'] (ls.map (cut width))

end Line

end Concordance.Markdown
