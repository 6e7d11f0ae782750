import Concordance.Markdown.Autolink
import Concordance.Markdown.Destination
import Concordance.Markdown.Emphasis
import Concordance.Markdown.Tag

/-!
# Running text

Running text is read from left to right as tokens.  To find where the label of a link ends, tokens
are passed over without being kept: a bracket inside code or raw markup does not count.  Labels
inside labels are followed twenty levels deep.
-/

namespace Concordance.Markdown

open Text

/-- A definition of a link, under the form of its label in which labels are compared. -/
abbrev Definitions := List (Text × Target)

/-- What has been found out about a text while reading it. -/
structure Findings where
  /-- Positions at which tokens begin, each with the position behind the token. -/
  ends : List (Nat × Nat) := []
  /-- Lengths of rows of code marks, each with the position of a row that has been passed over; the
  last one found comes first. -/
  marks : List (Nat × Nat) := []
  /-- Whether a search for a row of code marks has come to the end of the text. -/
  exhausted : Bool := false

/-- A token of running text. -/
inductive Token where
  /-- Characters that stand for themselves. -/
  | plain (t : Text)
  | lineFeed
  | span (s : Span)
  /-- A link whose label ends at a position. -/
  | link (target : Target) (stop : Nat)
  | signs (r : SignRow)

/-! ## Code -/

/-- The rows of code marks in a text that begins at position `pos`, each with its length; `run`
marks stand directly before the text. -/
def markRows (pos run : Nat) : Text → List (Nat × Nat)
  | [] => if run = 0 then [] else [(run, pos - run)]
  | c :: t =>
    if c = '\x60' then markRows (pos + 1) (run + 1) t
    else (if run = 0 then [] else [(run, pos - run)]) ++ markRows (pos + 1) 0 t

/-- The content of code: a line feed counts as a space, and one space is taken off both ends if
there is something else. -/
def codeText (t : Text) : Text :=
  let t := t.map fun c => if c = '\n' then ' ' else c
  if t.head? = some ' ' && t.getLast? = some ' ' && !isBlankText t then (t.drop 1).dropLast else t

/-- Read the row of code marks at a position: code that ends with a row of the same length, or the
row itself.  Once a search has come to the end of the text, a row is not searched for behind the
place where one of its length was last seen. -/
def codeToken (text : Text) (pos : Nat) (f : Findings) : (Token × Nat) × Findings :=
  let row := (text.drop pos).takeWhile (· == '\x60')
  let start := pos + row.length
  let fallback := (Token.plain row, start)
  if f.exhausted && (f.marks.lookup row.length).getD 0 ≤ pos then (fallback, f)
  else
    let rows := markRows start 0 (text.drop start)
    let passed := rows.takeWhile (·.1 != row.length)
    let f := { f with marks := passed.reverse ++ f.marks }
    match rows.drop passed.length with
    | (_, stop) :: _ =>
      ((.span (.code (codeText ((text.drop start).take (stop - start)))), stop + row.length), f)
    | [] => (fallback, { f with exhausted := true })

/-! ## Labels -/

/-- Reads the token at a position and returns the position behind it. -/
abbrev Skip := Nat → Findings → Nat × Findings

/-- Where the label ends that goes on at a position, with `depth` brackets open in it; a label that
holds a link is refused unless links may be `nested`.  Each token takes at least one character, so
the length of the text is enough `fuel`. -/
def labelEnd? (skip : Skip) (text : Text) (nested : Bool) :
    (fuel depth pos : Nat) → Findings → Option Nat × Findings
  | 0, _, _, f => (none, f)
  | fuel + 1, depth, pos, f =>
    match text[pos]? with
    | none => (none, f)
    | some c =>
      if c = ']' ∧ depth = 0 then (some pos, f)
      else
        let depth := if c = ']' then depth - 1 else depth
        let (next, f) := skip pos f
        if c = '[' then
          if next = pos + 1 then labelEnd? skip text nested fuel (depth + 1) next f
          else if nested then labelEnd? skip text nested fuel depth next f
          else (none, f)
        else labelEnd? skip text nested fuel depth next f

/-- Where the label ends that begins at a position. -/
def labelAt? (skip : Skip) (text : Text) (nested : Bool) (pos : Nat) (f : Findings) :
    Option Nat × Findings :=
  labelEnd? skip text nested (text.length + 1) 0 pos f

/-! ## Links and images -/

/-- Read a target behind an opening parenthesis, up to where the closing one must stand.  A
destination that is not allowed is not read at all. -/
def target? (t : Text) : Option (Target × Text) :=
  match t.dropWhile isGap with
  | [] => none
  | start =>
    let (href, rest) := match destination? start with
      | some (destination, rest) =>
        let href := Url.normalize destination
        if Url.isAllowed href then (href, rest) else ([], start)
      | none => ([], start)
    let behind := rest.dropWhile isGap
    match if behind.length < rest.length then title? behind else none with
    | some (title, rest) => some (⟨href, title⟩, rest.dropWhile isGap)
    | none => some (⟨href, []⟩, behind)

/-- Look up the definition of a link with the label from `start` to `stop`, and return it with the
position behind the link.  Another label may stand at `pos`; if it is not empty, it counts. -/
def reference? (skip : Skip) (text : Text) (definitions : Definitions) (start stop pos : Nat)
    (f : Findings) : Option (Target × Nat) × Findings :=
  let own := (text.take stop).drop start
  let find (label : Text) (rest : Nat) :=
    (definitions.lookup (labelKey label)).map fun target => (target, rest)
  if definitions.isEmpty then (none, f)
  else if text[pos]? = some '[' then
    match labelAt? skip text true (pos + 1) f with
    | (some e, f) =>
      let label := (text.take e).drop (pos + 1)
      (find (if label = [] then own else label) (e + 1), f)
    | (none, f) => (find own (stop + 1), f)
  else (find own (stop + 1), f)

/-- Read a link: behind its label stands its target, or a label of a definition, or nothing.  What
looks like a target and is not one is passed over, with one character behind it. -/
def link? (skip : Skip) (definitions : Definitions) (text : Text) (pos : Nat) (f : Findings) :
    Option (Token × Nat) × Findings :=
  match labelAt? skip text false (pos + 1) f with
  | (none, f) => (none, f)
  | (some stop, f) =>
    let refer (next : Nat) (f : Findings) :=
      let (found, f) := reference? skip text definitions (pos + 1) stop next f
      (found.map fun (target, rest) => (Token.link target stop, rest), f)
    match text.drop (stop + 1) with
    | '(' :: t =>
      match target? t with
      | none => (none, f)
      | some (target, rest) =>
        let behind := text.length - rest.length + 1
        if rest.head? = some ')' then (some (.link target stop, behind), f) else refer behind f
    | _ => refer (stop + 1) f

/-- Read an image: behind its label stands its target, or a label of a definition, or nothing. -/
def image? (skip : Skip) (definitions : Definitions) (text : Text) (pos : Nat) (f : Findings) :
    Option (Token × Nat) × Findings :=
  match labelAt? skip text true (pos + 2) f with
  | (none, f) => (none, f)
  | (some stop, f) =>
    let label := (text.take stop).drop (pos + 2)
    match text.drop (stop + 1) with
    | '(' :: t =>
      match target? t with
      | some (target, ')' :: rest) =>
        (some (.span (.image target label), text.length - rest.length), f)
      | _ => (none, f)
    | _ =>
      let (found, f) := reference? skip text definitions (pos + 2) stop (stop + 1) f
      (found.map fun (target, rest) => (.span (.image target label), rest), f)

/-! ## Tokens -/

/-- Whether a character stands for itself wherever it is. -/
def isPlain (c : Char) : Bool := !"\n!#$%&*+-:<=>@[\\]^_\x60\x7b\x7d~".toList.contains c

/-- An escape behind a backslash. -/
def escape? : Text → Option (Token × Text)
  | [] => none
  | c :: t =>
    if c = '\n' then some (.span .hardBreak, t.dropWhile isSpace)
    else some (.span (.text (if isAsciiSymbol c then [c] else ['\\', c])), t)

/-- Raw markup that begins with an angle bracket. -/
def markup? (t : Text) : Option (Token × Text) :=
  if t.length < 3 then none
  else (rawMarkup? t).map fun rest => (.span (.markup (t.take (t.length - rest.length))), rest)

/-- A reference behind an ampersand. -/
def referredText? (t : Text) : Option (Token × Text) :=
  (referenceName? t).bind fun name =>
    (referenceInText? name).map fun cs => (.span (.text cs), t.drop (name.length + 1))

/-- Read the token that begins at a position, where a character and the rest of the text stand. -/
def tokenAt (skip : Skip) (definitions : Definitions) (text : Text) (pos : Nat) (c : Char)
    (t : Text) (f : Findings) : (Token × Nat) × Findings :=
  let self := (Token.plain [c], pos + 1)
  let placed (found : Option (Token × Text)) : Token × Nat :=
    (found.map fun (token, rest) => (token, text.length - rest.length)).getD self
  let orSelf (found : Option (Token × Nat) × Findings) := (found.1.getD self, found.2)
  if isPlain c then
    let run := c :: t.takeWhile isPlain
    ((.plain run, pos + run.length), f)
  else if c = '\n' then (placed (some (.lineFeed, t.dropWhile isSpace)), f)
  else if c = '\\' then (placed (escape? t), f)
  else if c = '\x60' then codeToken text pos f
  else if c = '*' ∨ c = '_' then
    let length := 1 + (t.takeWhile (· == c)).length
    let before := if pos = 0 then ' ' else (text[pos - 1]?).getD ' '
    let after := (text[pos + length]?).getD ' '
    ((.signs (.between c length before after), pos + length), f)
  else if c = '[' then orSelf (link? skip definitions text pos f)
  else if c = '!' then
    if t.head? = some '[' then orSelf (image? skip definitions text pos f) else (self, f)
  else if c = '<' then
    (placed ((autolink? (c :: t)).map (fun (s, rest) => (.span s, rest)) |>.or
      (markup? (c :: t))), f)
  else if c = '&' then (placed (referredText? t), f)
  else (self, f)

/-- Where the token ends that begins at a position, with `depth` levels of labels left. -/
def tokenEnd (definitions : Definitions) (text : Text) : (depth : Nat) → Skip
  | depth, pos, f =>
    match f.ends.lookup pos with
    | some e => (e, f)
    | none =>
      let (e, f) := match depth, text.drop pos with
        | depth + 1, c :: t =>
          let ((_, e), f) := tokenAt (tokenEnd definitions text depth) definitions text pos c t f
          (e, f)
        | _, _ => (text.length + 1, f)
      (e, { f with ends := (pos, e) :: f.ends })

/-- How deep labels may be nested. -/
def labelDepth : Nat := 20

/-! ## Pieces -/

/-- Plain characters as a piece, if there are any. -/
def plainPiece (t : Text) : List Piece := if t = [] then [] else [.span (.text t)]

/-- The break that a line feed is behind plain characters, and the characters without the spaces
before it.  Two spaces or more make it a hard break. -/
def breakBehind (plain : Text) : Text × Span :=
  let bare := dropTailWhile (· == ' ') plain
  (bare, if bare.length + 2 ≤ plain.length then .hardBreak else .softBreak)

/-- Read running text from a position on; `plain` holds the characters that stand for themselves
directly before it.  Each token takes at least one character, so the length of the text is enough
`fuel`. -/
def piecesFrom (definitions : Definitions) (text : Text) :
    (fuel stop : Nat) → (plain : Text) → (pos : Nat) → Findings → List Piece × Findings
  | 0, _, plain, _, f => (plainPiece plain, f)
  | fuel + 1, stop, plain, pos, f =>
    let text := text.take stop
    match text.drop pos with
    | [] => (plainPiece plain, f)
    | c :: t =>
      let skip := tokenEnd definitions text labelDepth
      let ((token, next), f) := tokenAt skip definitions text pos c t f
      match token with
      | .plain run => piecesFrom definitions text fuel stop (plain ++ run) next f
      | .lineFeed =>
        let (bare, lineBreak) := breakBehind plain
        let (ps, f) := piecesFrom definitions text fuel stop [] next f
        (plainPiece bare ++ .span lineBreak :: ps, f)
      | .span s =>
        let (ps, f) := piecesFrom definitions text fuel stop [] next f
        (plainPiece plain ++ .span s :: ps, f)
      | .signs r =>
        let (ps, f) := piecesFrom definitions text fuel stop [] next f
        (plainPiece plain ++ .signs r :: ps, f)
      | .link target labelStop =>
        let (body, f) := piecesFrom definitions text fuel labelStop [] (pos + 1) f
        let (ps, f) := piecesFrom definitions text fuel stop [] next f
        (plainPiece plain ++ .span (.link target (spansOf body)) :: ps, f)

/-- The spans of running text. -/
def readSpans (definitions : Definitions) (text : Text) : List Span :=
  spansOf (piecesFrom definitions text (text.length + 1) text.length [] 0 {}).1

end Concordance.Markdown
