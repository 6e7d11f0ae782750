import Concordance.Markdown.Block
import Concordance.Markdown.Destination
import Concordance.Markdown.Line
import Concordance.Markdown.Tag
import Concordance.Url

/-!
# Leaf blocks

How each block that holds no other blocks begins and ends.  A reader gets the lines from the
block's first line on and returns the block with the number of lines it takes.
-/

namespace Concordance.Markdown

open Text

/-- The container that lines stand in. -/
structure Container where
  /-- The column at which the container's blocks begin. -/
  indent : Nat := 0
  /-- The column at which the blocks around the innermost list begin. -/
  listIndent : Option Nat := none

/-- Whether a line is indented so far that it is code where no paragraph is open. -/
def Container.isCode (c : Container) (l : Line) : Bool := 4 ≤ l.indent - c.indent

/-! ## Thematic breaks -/

/-- Three or more of one sign, with nothing but blanks between them. -/
def isBreakText : Text → Bool
  | [] => false
  | m :: t =>
    (m == '*' || m == '-' || m == '_') && t.all (fun c => c == m || isSpace c) && 2 ≤ t.count m

/-- Whether a line is a thematic break. -/
def Container.isBreak (c : Container) (l : Line) : Bool := !c.isCode l && isBreakText l.content

/-! ## Headings -/

/-- A heading that a row of number signs opens: its level and its text. -/
def signedHeading? (t : Text) : Option (Nat × Text) :=
  let level := (t.takeWhile (· == '#')).length
  let rest := t.drop level
  if 1 ≤ level && level ≤ 6 && rest.head?.all isSpace then
    let body := dropTailWhile isSpace rest
    let bare := dropTailWhile (· == '#') body
    some (level, trim (if bare.getLast?.any isSpace then bare else body))
  else none

/-- The heading that a line is, if it is one. -/
def Container.heading? (c : Container) (l : Line) : Option (Nat × Text) :=
  if c.isCode l then none else signedHeading? l.content

/-- The level of the heading that a row of signs below it makes. -/
def underline? : Text → Option Nat
  | [] => none
  | m :: t =>
    if (m = '=' ∨ m = '-') ∧ (t.dropWhile (· == m)).all isSpace then
      some (if m = '=' then 1 else 2)
    else none

/-! ## Code -/

/-- Indented code takes the lines that are code and the empty lines between them. -/
def codeLength (c : Container) : (taken passed : Nat) → List Line → Nat
  | taken, _, [] => taken
  | taken, passed, l :: ls =>
    if l.isEmpty then codeLength c taken (passed + 1) ls
    else if c.isCode l then codeLength c (passed + 1) (passed + 1) ls
    else taken

/-- Read indented code. -/
def Container.code? (c : Container) (l : Line) (ls : List Line) : Option (Block × Nat) :=
  if c.isCode l then
    let n := codeLength c 1 1 ls
    some (.code l.number (Line.cutJoined (4 + c.indent) ((l :: ls).take n) ++ ['\n']), n)
  else none

/-- An opening fence: its sign, its length, and what stands behind it. -/
def openFence? (t : Text) : Option (Char × Nat × Text) :=
  match t with
  | [] => none
  | m :: _ =>
    let length := (t.takeWhile (· == m)).length
    let info := t.drop length
    if (m = '~' ∨ m = '\x60') ∧ 3 ≤ length ∧ ¬ (m = '\x60' ∧ info.contains m) then
      some (m, length, info)
    else none

/-- The fence that a line opens, if it opens one. -/
def Container.fence? (c : Container) (l : Line) : Option (Char × Nat × Text) :=
  if c.isCode l then none else openFence? l.content

/-- A closing fence is at least as long as the opening one, and only blanks stand behind it. -/
def closesFence (m : Char) (length : Nat) (t : Text) : Bool :=
  length ≤ (t.takeWhile (· == m)).length && (t.dropWhile (· == m)).all isSpace

/-- The lines of fenced code, and whether a closing fence stands behind them.  The code also ends
before a line that stands outside the container, and before an empty last line without a line
feed. -/
def fenceBody (c : Container) (m : Char) (length : Nat) : List Line → List Line × Bool
  | [] => ([], false)
  | l :: ls =>
    if !l.isEmpty && l.indent < c.indent then ([], false)
    else if l.isEmpty && !l.ended then ([], false)
    else if l.content.head? = some m && !c.isCode l && closesFence m length l.content then
      ([], true)
    else
      let (body, closed) := fenceBody c m length ls
      (l :: body, closed)

/-- Read fenced code; as many columns as the opening fence is indented are cut off its lines. -/
def Container.fenced? (c : Container) (l : Line) (ls : List Line) : Option (Block × Nat) :=
  (c.fence? l).map fun (m, length, info) =>
    let (body, closed) := fenceBody c m length ls
    (.fence l.number info (Line.cutAll l.indent.toNat body),
      1 + body.length + if closed then 1 else 0)

/-! ## Raw markup -/

/-- A letter without its case; some letters outside the alphabet count as one of it. -/
def foldLetter (c : Char) : Char :=
  if c = '\u0130' ∨ c = '\u0131' then 'i'
  else if c = '\u017f' then 's'
  else if c = '\u212a' then 'k'
  else c.toLower

/-- Names of tags that open raw markup up to an empty line. -/
def blockTags : List Text :=
  ["address", "article", "aside", "base", "basefont", "blockquote", "body", "caption", "center",
    "col", "colgroup", "dd", "details", "dialog", "dir", "div", "dl", "dt", "fieldset",
    "figcaption", "figure", "footer", "form", "frame", "frameset", "h1", "h2", "h3", "h4", "h5",
    "h6", "head", "header", "hr", "html", "iframe", "legend", "li", "link", "main", "menu",
    "menuitem", "nav", "noframes", "ol", "optgroup", "option", "p", "param", "search", "section",
    "summary", "table", "tbody", "td", "tfoot", "th", "thead", "title", "tr", "track",
    "ul"].map String.toList

/-- Names of tags that open raw markup up to a closing tag of one of these names. -/
def literalTags : List Text := ["script", "pre", "style", "textarea"].map String.toList

/-- Where raw markup ends. -/
inductive MarkupEnd where
  | literalTag
  | mark (text : Text)
  | emptyLine
  deriving DecidableEq

/-- What must stand behind the name of a tag. -/
def behindTagName (selfClosing : Bool) : Text → Bool
  | [] => true
  | '/' :: '>' :: _ => selfClosing
  | c :: _ => isBlank c || c == '>'

/-- Whether a text begins with one of some names, with an end of a name behind it. -/
def beginsWithTag (names : List Text) (selfClosing : Bool) (t : Text) : Bool :=
  names.any fun n => startsWith n t && behindTagName selfClosing (t.drop n.length)

/-- How the raw markup that begins a line ends, and whether it may interrupt a paragraph. -/
def markupEnd? (t : Text) : Option (MarkupEnd × Bool) :=
  let folded := t.map foldLetter
  match t with
  | '<' :: r =>
    if beginsWithTag literalTags false (folded.drop 1) then some (.literalTag, true)
    else if startsWith "!--".toList r then some (.mark "-->".toList, true)
    else if r.head? = some '?' then some (.mark "?>".toList, true)
    else if r.head? = some '!' && (r.drop 1).head?.any Char.isUpper then some (.mark ['>'], true)
    else if startsWith "![CDATA[".toList r then some (.mark "]]>".toList, true)
    else
      let name := folded.drop (if r.head? = some '/' then 2 else 1)
      if beginsWithTag blockTags true name then some (.emptyLine, true)
      else match (openTag? t).or (closeTag? t) with
        | some rest => if isBlankText rest then some (.emptyLine, false) else none
        | none => none
  | _ => none

/-- Whether a line ends raw markup. -/
def MarkupEnd.isEnd (e : MarkupEnd) (t : Text) : Bool :=
  match e with
  | .literalTag =>
    literalTags.any fun n => (behind? ("</".toList ++ n ++ ['>']) (t.map foldLetter)).isSome
  | .mark m => (behind? m t).isSome
  | .emptyLine => t.isEmpty

/-- How the raw markup that a line opens ends, if it opens some. -/
def Container.markup? (c : Container) (l : Line) : Option (MarkupEnd × Bool) :=
  if c.isCode l then none else markupEnd? l.content

/-- How many lines behind the first belong to raw markup. -/
def markupLength (c : Container) (e : MarkupEnd) : List Line → Nat
  | [] => 0
  | l :: ls =>
    if l.indent < c.indent then 0
    else if e.isEnd l.content then if l.isEmpty then 0 else 1
    else markupLength c e ls + 1

/-- Read raw markup. -/
def Container.markupBlock? (c : Container) (l : Line) (ls : List Line) : Option (Block × Nat) :=
  (c.markup? l).map fun (e, _) =>
    let n := 1 + if e.isEnd l.content then 0 else markupLength c e ls
    (.markup l.number (Line.cutAll c.indent ((l :: ls).take n)), n)

/-! ## List markers -/

/-- What opens an item of a list. -/
structure Marker where
  /-- The item's number, in an ordered list. -/
  value : Option Nat
  /-- The bullet, or the sign behind the number. -/
  sign : Char
  /-- How many characters the marker takes. -/
  width : Nat
  /-- What stands behind the marker. -/
  rest : Text

/-- The marker at the front of a text: a bullet, or up to nine digits and a sign, with a blank or
nothing behind it. -/
def marker? (t : Text) : Option Marker :=
  let digits := t.takeWhile Char.isDigit
  let m : Option Marker := match t.drop digits.length with
    | [] => none
    | s :: rest =>
      if digits = [] then
        if s = '*' ∨ s = '-' ∨ s = '+' then some ⟨none, s, 1, rest⟩ else none
      else if digits.length ≤ 9 ∧ (s = '.' ∨ s = ')') then
        some ⟨some (valueOf 10 digits), s, digits.length + 1, rest⟩
      else none
  m.filter fun m => m.rest.head?.all isSpace

/-- Whether two markers open items of one list. -/
def Marker.goesWith (m n : Marker) : Bool := m.value.isSome == n.value.isSome && m.sign == n.sign

/-- The marker of the item that a line opens.  A line that stands outside an item, and far to the
right of the list around it, opens none. -/
def Container.marker? (c : Container) (l : Line) : Option Marker :=
  if c.isCode l || (c.listIndent.any fun i => 4 ≤ l.indent - i && l.indent < c.indent) then none
  else Markdown.marker? l.content

/-! ## Tables -/

/-- Split a row at its bars; `cell` is the cell so far, last character first, and a bar behind a
backslash belongs to the cell. -/
def splitRow (escaped : Bool) (cell : Text) : Text → List Text
  | [] => [cell.reverse]
  | c :: t =>
    if c = '|' then
      if escaped then splitRow false ('|' :: cell.drop 1) t
        else cell.reverse :: splitRow false [] t
    else splitRow (c == '\\') (c :: cell) t

/-- The cells of a row, without the empty ones outside the outermost bars. -/
def rowCells (t : Text) : List Text :=
  let cells := splitRow false [] t
  let cells := if cells.head? = some [] then cells.drop 1 else cells
  if cells.getLast? = some [] then cells.dropLast else cells

/-- Hyphens, with a colon before or behind them or both. -/
def isDelimiter (t : Text) : Bool :=
  let t := if t.head? = some ':' then t.drop 1 else t
  let t := if t.getLast? = some ':' then t.dropLast else t
  t ≠ [] && t.all (· == '-')

/-- The number of columns that the line below a table's head sets. -/
def delimiterColumns? (t : Text) : Option Nat :=
  match t with
  | a :: b :: _ =>
    if t.all (fun c => c == '|' || c == '-' || c == ':' || isSpace c) && !isSpace a &&
        !(a == '-' && isSpace b) then
      let cells := (splitOn '|' t).map trim
      let cells := if cells.head? = some [] then cells.drop 1 else cells
      let cells := if cells.getLast? = some [] then cells.dropLast else cells
      if cells.all isDelimiter then some cells.length else none
    else none
  | _ => none

/-- The head of the table that two lines open. -/
def Container.tableHead? (c : Container) (l : Line) (ls : List Line) : Option (List Text) :=
  match ls with
  | [] => none
  | d :: _ =>
    if d.indent < c.indent || c.isCode d || c.isCode l then none
    else
      (delimiterColumns? d.content).bind fun n =>
        let row := trim l.content
        let cells := rowCells row
        if row.contains '|' && cells.length = n && n ≠ 0 then some (cells.map trim) else none

/-! ## Interruptions -/

/-- Whether a line opens a quote. -/
def Container.opensQuote (c : Container) (l : Line) : Bool :=
  !c.isCode l && l.content.head? == some '>'

/-- Whether a line begins a block that ends a list. -/
def Container.interruptsList (c : Container) (l : Line) : Bool :=
  (c.fence? l).isSome || c.opensQuote l || c.isBreak l

/-- Whether a line begins a block that ends a quote whose last line it would go on with. -/
def Container.interruptsQuote (c : Container) (l : Line) : Bool :=
  c.interruptsList l || (c.marker? l).isSome || (c.markup? l).any (·.2) || (c.heading? l).isSome

/-- Whether a list may interrupt a paragraph: an ordered one begins with one, and the first item is
not empty.  A line left of the container may open any item. -/
def Container.listInterrupts (c : Container) (l : Line) : Bool :=
  (c.marker? l).any fun m =>
    l.indent < c.indent || ((m.value.all (· == 1)) && !m.rest.all isSpace)

/-- Whether the lines begin a block that ends a paragraph. -/
def Container.interruptsParagraph (c : Container) (l : Line) (ls : List Line) : Bool :=
  (c.tableHead? l ls).isSome || c.interruptsList l || c.listInterrupts l ||
    (c.markup? l).any (·.2) || (c.heading? l).isSome

/-- Whether the lines begin a block that ends a definition. -/
def Container.interruptsDefinition (c : Container) (l : Line) (ls : List Line) : Bool :=
  (c.tableHead? l ls).isSome || c.interruptsQuote l

/-- Read a table; its rows go on up to an empty line or another block, and a row has as many cells
as the head.  At most 65536 cells are added to rows that are too short. -/
def tableRows (c : Container) (columns : Nat) (added : Int) : List Line → List (List Text)
  | [] => []
  | l :: ls =>
    let row := trim l.content
    let cells := rowCells row
    let added := added + columns - cells.length
    if l.indent < c.indent || c.interruptsQuote l || row = [] || c.isCode l || 65536 < added then
      []
    else
      ((cells.map trim) ++ List.replicate (columns - cells.length) []).take columns ::
        tableRows c columns added ls

/-- Read a table. -/
def Container.table? (c : Container) (l : Line) (ls : List Line) : Option (Block × Nat) :=
  (c.tableHead? l ls).map fun head =>
    let rows := tableRows c head.length 0 (ls.drop 1)
    (.table l.number head rows, 2 + rows.length)

/-! ## Definitions -/

/-- The text of the lines that may belong to a definition, from their content on. -/
def definitionText (c : Container) : List Line → Text
  | [] => []
  | l :: ls =>
    if l.isEmpty then []
    else if c.isCode l || l.indent < 0 || !c.interruptsDefinition l ls then
      l.content ++ l.feed ++ definitionText c ls
    else []

/-- The label at the front of a text that stands behind an opening bracket. -/
def label? : Text → Option (Text × Text)
  | [] => none
  | c :: t =>
    if c = '[' then none
    else if c = ']' then some ([], t)
    else if c = '\\' then
      match t with
      | d :: t => (label? t).map fun (w, r) => (c :: d :: w, r)
      | [] => none
    else (label? t).map fun (w, r) => (c :: w, r)

/-- Whether a line ends here, with only blanks before its end. -/
def endsLine (t : Text) : Bool := (t.dropWhile isSpace).head?.all (· == '\n')

/-- The title behind a destination.  A gap stands before it, unless it goes on over the end of its
line.  A title with something else behind it on its line is not taken, unless it is empty. -/
def definitionTitle? (t : Text) : Option (Text × Text) :=
  let start := t.dropWhile isGap
  (title? start).filter fun (title, rest) =>
    (start.length < t.length || (start.take (start.length - rest.length)).contains '\n') &&
      (title = [] || endsLine rest)

/-- The first line of a text with its line feed, and what is behind it. -/
def cutLine (t : Text) : Text × Text :=
  let line := t.takeWhile (· != '\n')
  (line ++ (t.drop line.length).take 1, t.drop (line.length + 1))

/-- How many lines a text begins. -/
def lineCount (t : Text) : Nat := t.count '\n' + if t.getLast? = some '\n' then 0 else 1

/-- Read the definition that a text begins with, and say how many lines it takes.  The destination
ends with its line, even if a backslash protects the line feed. -/
def definition? (t : Text) : Option (Block × Nat) :=
  match t with
  | '[' :: body =>
    (label? body).bind fun (label, r) =>
      match r with
      | ':' :: r =>
        let (line, more) := cutLine (r.dropWhile isGap)
        (destination? line).bind fun (destination, behind) =>
          let href := Url.normalize destination
          let (title, rest) :=
            if behind = [] then ([], more)
            else (definitionTitle? (behind ++ more)).getD ([], behind ++ more)
          if Url.isAllowed href && (behind = [] || endsLine rest) && labelKey label ≠ [] then
            some (.definition (labelKey label) href title,
              lineCount (t.take (t.length - rest.length)))
          else none
      | _ => none
  | _ => none

/-- Read a definition. -/
def Container.definition? (c : Container) (l : Line) (ls : List Line) : Option (Block × Nat) :=
  if c.isCode l then none
  else Markdown.definition? (l.content ++ l.feed ++ definitionText c ls)

/-! ## Paragraphs -/

/-- Whether a line goes on with a paragraph: it is no block of its own, or may not be one there. -/
def Container.continues (c : Container) (l : Line) (ls : List Line) : Bool :=
  !l.isEmpty &&
    (3 < l.indent - c.indent || l.indent < 0 || !c.interruptsParagraph l ls)

/-- How many lines behind the first belong to a paragraph. -/
def paragraphLength (c : Container) : List Line → Nat
  | [] => 0
  | l :: ls => if c.continues l ls then paragraphLength c ls + 1 else 0

/-- The number of lines before an underline, and the level of the heading it makes. -/
def underlineAt? (c : Container) : List Line → Option (Nat × Nat)
  | [] => none
  | l :: ls =>
    let level? :=
      if c.indent ≤ l.indent && l.indent - c.indent ≤ 3 then underline? l.content else none
    match level? with
    | some level => some (0, level)
    | none =>
      if c.continues l ls then (underlineAt? c ls).map fun (n, level) => (n + 1, level) else none

/-- The running text of lines. -/
def Container.runningText (c : Container) (ls : List Line) : Text :=
  trim (Line.cutJoined c.indent ls)

/-- Read a heading with an underline. -/
def Container.underlined? (c : Container) (l : Line) (ls : List Line) : Option (Block × Nat) :=
  if c.isCode l then none
  else (underlineAt? c ls).map fun (n, level) =>
    (.heading l.number level (c.runningText ((l :: ls).take (n + 1))), n + 2)

/-- Read a paragraph. -/
def Container.paragraph (c : Container) (l : Line) (ls : List Line) : Block × Nat :=
  let n := paragraphLength c ls + 1
  (.paragraph l.number (c.runningText ((l :: ls).take n)), n)

end Concordance.Markdown
