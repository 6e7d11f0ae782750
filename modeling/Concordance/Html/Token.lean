import Concordance.Html.Reference

/-!
# Tokens of markup

A page is a sequence of tags, texts and comments.  Nothing is an error: what is no tag is text.
-/

namespace Concordance.Html

open Text

/-- The attributes of a tag; of several with one name the first counts. -/
abbrev Attributes := List (Text × Text)

/-- A token of a page. -/
inductive Token where
  /-- A tag that opens an element; `empty` says that the tag ends it, too. -/
  | opening (name : Text) (attributes : Attributes) (empty : Bool)
  | closing (name : Text)
  | text (t : Text)
  /-- A comment, an instruction or a declaration. -/
  | comment

/-- A blank between the parts of a tag. -/
def isTagBlank (c : Char) : Bool := c == ' ' || c == '\t' || c == '\n' || c == '\r' || c == '\x0c'

/-- Whether a character ends a name in a tag. -/
def endsTagName (c : Char) : Bool := isTagBlank c || c == '/' || c == '>'

/-- The name of a tag or an attribute; letter case does not matter. -/
def lowerName (t : Text) : Text := t.map Char.toLower

/-! ## Tags -/

/-- Read the value of an attribute behind the equals sign.  A value whose quote is not closed is
not read. -/
def value? (t : Text) : Option (Text × Text) :=
  match t.dropWhile isTagBlank with
  | [] => none
  | q :: r =>
    if q = '\x22' ∨ q = '\x27' then
      match r.dropWhile (· != q) with
      | [] => none
      | _ :: rest => some (resolveValue (r.takeWhile (· != q)), rest)
    else
      let raw := (q :: r).takeWhile fun c => !isTagBlank c && c != '>'
      some (resolveValue raw, (q :: r).drop raw.length)

/-- Read the attributes and the end of a tag; a tag that does not end is not read.  Each attribute
takes at least one character, so the length of the text is enough `fuel`. -/
def attributes? : (fuel : Nat) → Text → Option (Attributes × Bool × Text)
  | 0, _ => none
  | fuel + 1, t =>
    match t.dropWhile isTagBlank with
    | [] => none
    | '>' :: r => some ([], false, r)
    | '/' :: '>' :: r => some ([], true, r)
    | '/' :: r => attributes? fuel r
    | c :: r =>
      let tail := r.takeWhile fun c => !endsTagName c && c != '='
      let name := lowerName (c :: tail)
      let rest := r.drop tail.length
      let found := match rest.dropWhile isTagBlank with
        | '=' :: v => value? v
        | _ => some ([], rest)
      found.bind fun (value, rest) =>
        (attributes? fuel rest).map fun (as, empty, rest) => ((name, value) :: as, empty, rest)

/-- Read a tag from its name on. -/
def tag? (t : Text) : Option (Text × Attributes × Bool × Text) :=
  let name := t.takeWhile fun c => !endsTagName c
  (attributes? (t.length + 1) (t.drop name.length)).map fun (as, empty, rest) =>
    (lowerName name, as, empty, rest)

/-! ## Comments and literal text -/

/-- What is behind the end of a comment; a comment that does not end takes everything. -/
def behindComment : Text → Text
  | [] => []
  | '-' :: '-' :: '>' :: t => t
  | '-' :: '-' :: '!' :: '>' :: t => t
  | _ :: t => behindComment t

/-- What is behind a comment whose opening has been read. -/
def behindOpening : Text → Text
  | '>' :: t => t
  | '-' :: '>' :: t => t
  | t => behindComment t

/-- What is behind the next closing angle bracket. -/
def behindBracket (t : Text) : Text := (t.dropWhile (· != '>')).drop 1

/-- Elements that hold text only, and whether references are resolved in it. -/
def textElements : List (Text × Bool) :=
  [("title", true), ("textarea", true), ("script", false), ("style", false), ("xmp", false),
    ("iframe", false), ("noembed", false), ("noframes", false)].map fun (n, b) => (n.toList, b)

/-- The text before the closing tag of an element, and the closing tag with what is behind it. -/
def untilClosing (name : Text) : Text → Text × Text
  | [] => ([], [])
  | c :: t =>
    if c = '<' && t.head? = some '/' && lowerName ((t.drop 1).take name.length) = name &&
        ((t.drop (name.length + 1)).head?).all endsTagName then ([], c :: t)
    else
      let (w, r) := untilClosing name t
      (c :: w, r)

/-! ## Pages -/

/-- Read what begins with an angle bracket. -/
def bracket? : Text → Option (Option Token × Text)
  | '!' :: '-' :: '-' :: t => some (some .comment, behindOpening t)
  | '!' :: t => some (some .comment, behindBracket t)
  | '?' :: t => some (some .comment, behindBracket t)
  | '/' :: '>' :: t => some (none, t)
  | '/' :: c :: t =>
    if c.isAlpha then
      match tag? (c :: t) with
      | some (name, _, _, rest) => some (some (.closing name), rest)
      | none => some (none, [])
    else some (some .comment, behindBracket (c :: t))
  | c :: t =>
    if c.isAlpha then
      match tag? (c :: t) with
      | some (name, as, empty, rest) => some (some (.opening name as empty), rest)
      | none => some (none, [])
    else none
  | [] => none

/-- The text that an element which holds text only begins with, and what is behind it. -/
def literalText (token : Token) (t : Text) : List Token × Text :=
  match token with
  | .opening name _ false =>
    match textElements.lookup name with
    | some resolved =>
      let (w, r) := untilClosing name t
      ([.text (if resolved then resolve w else w)], r)
    | none => ([], t)
  | _ => ([], t)

/-- The tokens of a page; each takes at least one character, so the length of the text is enough
`fuel`. -/
def tokensOf : (fuel : Nat) → Text → List Token
  | 0, _ => []
  | fuel + 1, t =>
    match t with
    | [] => []
    | c :: r =>
      match if c = '<' then bracket? r else none with
      | some (some token, rest) =>
        let (literal, rest) := literalText token rest
        token :: (literal ++ tokensOf fuel rest)
      | some (none, rest) => tokensOf fuel rest
      | none =>
        let run := r.takeWhile (· != '<')
        .text (resolve (c :: run)) :: tokensOf fuel (r.drop run.length)

/-- The tokens of a page. -/
def tokens (t : Text) : List Token := tokensOf (t.length + 1) t

end Concordance.Html
