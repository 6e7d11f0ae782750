import Concordance.Markdown.Leaf

/-!
# Block structure

Quotes and lists hold blocks of their own.  The lines of a document are read from the first on; a
container takes as many of them as belong to it and reads them again, with the part that marks the
container cut off.  Containers are nested at most twenty levels deep; what is nested deeper is
passed over.
-/

namespace Concordance.Markdown

open Text

/-- What reading some lines gives. -/
structure Progress where
  blocks : List Block := []
  /-- How many lines have been passed. -/
  used : Nat
  /-- Whether no two of the blocks have an empty line between them. -/
  tight : Bool := true

/-- A reader of lines inside a container. -/
abbrev Reader := Container → List Line → Progress

/-- The reader of what is nested too deep.  It passes over all lines, unless the first that is not
empty stands outside the container. -/
def skipAll : Reader := fun c ls =>
  { used := (ls.takeWhile Line.isEmpty).length +
      match ls.dropWhile Line.isEmpty with
      | [] => 0
      | l :: rest => if l.indent < c.indent then 0 else rest.length + 1 }

/-! ## Sequences of blocks -/

/-- Read blocks one after another with `block`; `blank` says whether an empty line stands before
the lines.  Each block takes at least one line, so the number of lines is enough `fuel`. -/
def readBlocks (block : Container → Line → List Line → Block × Nat) (c : Container) :
    (fuel : Nat) → (blank tight : Bool) → List Line → Progress
  | 0, _, tight, _ => { used := 0, tight := tight }
  | fuel + 1, blank, tight, ls =>
    let skipped := (ls.takeWhile Line.isEmpty).length
    match ls.dropWhile Line.isEmpty with
    | [] => { used := skipped, tight := tight }
    | l :: rest =>
      if l.indent < c.indent then { used := skipped, tight := tight }
      else
        let (b, n) := block c l rest
        let remaining := (l :: rest).drop n
        let gap := if remaining.head?.any Line.isEmpty then 1 else 0
        let endsBlank := ((l :: rest)[n - 1]?).any Line.isEmpty
        let p := readBlocks block c fuel (blank || endsBlank || gap = 1) (!blank)
          (remaining.drop gap)
        { p with blocks := b :: p.blocks, used := skipped + n + gap + p.used }

/-! ## Quotes -/

/-- A line without the mark of a quote and one blank behind it.  Only a part of a tab may be taken;
the rest of it still counts as indentation. -/
def unquote (l : Line) : Line :=
  let t := l.content.drop 1
  let column := (l.indent + 1).toNat
  match t with
  | ' ' :: t => build t (column + 1) (column + 1) 0
  | '\t' :: r =>
    if (l.base + column) % 4 = 3 then build r (column + 1) (column + 1) 0
    else build t column (column + 1) 1
  | t => build t column column 0
where
  /-- The line with text `t`, whose first column is `column`, where tabs are counted as if the text
  began `extra` columns further on. -/
  build (t : Text) (column base extra : Nat) : Line :=
    let (shift, stop) := Line.measure (l.base + extra) column t
    { l with text := t, shift := shift, indent := stop - column, base := base }

/-- The lines of a quote behind its first, as the quote sees them; `blank` says whether the last
line with a mark is empty.  A line without a mark goes on with the paragraph before it. -/
def quoteLines (c : Container) (blank : Bool) : List Line → List Line
  | [] => []
  | l :: ls =>
    if l.isEmpty then []
    else if l.content.head? = some '>' && c.indent ≤ l.indent then
      let q := unquote l
      q :: quoteLines c q.isEmpty ls
    else if blank || c.interruptsQuote l then []
    else { l with indent := -1 } :: quoteLines c blank ls

/-- Read a quote. -/
def Container.quote? (c : Container) (body : Reader) (l : Line) (ls : List Line) :
    Option (Block × Nat) :=
  if c.opensQuote l then
    let q := unquote l
    let p := body { c with indent := 0 } (q :: quoteLines c q.isEmpty ls)
    some (.quote l.number p.blocks, p.used)
  else none

/-! ## Lists -/

/-- The items of a list: how many lines they take, and whether they are tight. -/
structure Items where
  items : List Item
  used : Nat
  tight : Bool

/-- The content of an item as the item sees it, and the container that it makes.  The content
begins behind the marker and up to four columns of blanks; if there are more, they belong to the
content. -/
def openItem (c : Container) (m : Marker) (l : Line) : Container × Line :=
  let start := l.indent.toNat + m.width
  let (shift, column) := Line.measure l.base start m.rest
  let blanks := if (m.rest.drop shift).isEmpty || 4 < column - start then 1 else column - start
  ({ indent := start + blanks, listIndent := some c.indent },
    { l with shift := l.shift + m.width + shift, indent := column })

/-- Read the items of a list from a line with a marker on.  An item that begins with two empty
lines is empty; `blank` says whether the item before ends with an empty line.  Each item takes at
least one line, so the number of lines is enough `fuel`. -/
def readItems (body : Reader) (c : Container) :
    (fuel : Nat) → (blank : Bool) → Marker → Line → List Line → Items
  | 0, _, _, _, _ => ⟨[], 0, true⟩
  | fuel + 1, blank, m, l, ls =>
    let (inner, first) := openItem c m l
    let p := if first.isEmpty && ls.head?.all Line.isEmpty then
        { used := min 2 (ls.length + 1) : Progress }
      else body inner (first :: ls)
    let item := Item.mk l.number p.blocks
    let tight := p.tight && !blank
    let blank := 1 < p.used && ((l :: ls)[p.used - 1]?).any Line.isEmpty
    let next? := match (l :: ls).drop p.used with
      | [] => none
      | l' :: ls' =>
        if l'.indent < c.indent || c.isCode l' || c.interruptsList l' then none
        else ((Markdown.marker? l'.content).filter m.goesWith).map fun m' => (m', l', ls')
    match next? with
    | none => ⟨[item], p.used, tight⟩
    | some (m', l', ls') =>
      let is := readItems body c fuel blank m' l' ls'
      ⟨item :: is.items, p.used + is.used, tight && is.tight⟩

/-- Read a list. -/
def Container.list? (c : Container) (body : Reader) (l : Line) (ls : List Line) :
    Option (Block × Nat) :=
  (c.marker? l).map fun m =>
    let is := readItems body c (ls.length + 1) false m l ls
    (.list l.number m.value is.tight is.items, is.used)

/-! ## Blocks -/

/-- Read one block, with readers for what is inside quotes and inside lists. -/
def readBlock (quoteBody listBody : Reader) (c : Container) (l : Line) (ls : List Line) :
    Block × Nat :=
  ((c.table? l ls).or ((c.code? l ls).or ((c.fenced? l ls).or ((c.quote? quoteBody l ls).or
    ((breakBlock? c l).or ((c.list? listBody l ls).or ((c.definition? l ls).or
      ((c.markupBlock? l ls).or ((headingBlock? c l).or (c.underlined? l ls)))))))))).getD
    (c.paragraph l ls)
where
  /-- A thematic break as a block. -/
  breakBlock? (c : Container) (l : Line) : Option (Block × Nat) :=
    if c.isBreak l then some (.thematicBreak l.number, 1) else none
  /-- A heading on one line as a block. -/
  headingBlock? (c : Container) (l : Line) : Option (Block × Nat) :=
    (c.heading? l).map fun (level, text) => (.heading l.number level text, 1)

/-- The reader for blocks that may hold `depth` levels of containers.  A list takes two levels, its
own and that of its items. -/
def reader : (depth : Nat) → Reader
  | 0 => skipAll
  | 1 => fun c ls => readBlocks (readBlock skipAll skipAll) c (ls.length + 1) false true ls
  | depth + 2 => fun c ls =>
    readBlocks (readBlock (reader (depth + 1)) (reader depth)) c (ls.length + 1) false true ls

/-- How deep containers may be nested. -/
def maxDepth : Nat := 20

/-- The blocks of a document in which every line break is a line feed. -/
def blocks (t : Text) : List Block := (reader maxDepth {} (Line.ofDocument t)).blocks

end Concordance.Markdown
