import Concordance.Text.Basic

/-!
# Raw tags

The pieces of raw markup that may stand in a document: opening and closing tags, comments,
instructions, declarations and literal sections.  Each reader returns what is behind the piece.
-/

namespace Concordance.Markdown

open Text

/-! ## Names and attributes -/

/-- The rest of a tag name. -/
def isTagNameChar (c : Char) : Bool := c.isAlphanum || c == '-'

/-- What is behind a tag name. -/
def tagName? : Text → Option Text
  | [] => none
  | c :: t => if c.isAlpha then some (t.dropWhile isTagNameChar) else none

/-- The first character of an attribute's name. -/
def isAttributeStart (c : Char) : Bool := c.isAlpha || c == '_' || c == ':'

/-- The rest of an attribute's name. -/
def isAttributeChar (c : Char) : Bool :=
  c.isAlphanum || c == ':' || c == '.' || c == '_' || c == '-'

/-- A character of an attribute's value that is not quoted. -/
def isUnquoted (c : Char) : Bool :=
  0x20 < c.toNat && !"\"'=<>".toList.contains c && c != '\x60'

/-- The places where a value that is not quoted may end, the last one first: it ends at the end of
its run, or before a blank in it. -/
def unquotedEnds : Text → List Text
  | [] => [[]]
  | c :: t =>
    if isUnquoted c then unquotedEnds t ++ (if isBlank c then [c :: t] else []) else [c :: t]

/-- The places where the value of an attribute may end. -/
def valueEnds : Text → List Text
  | [] => []
  | c :: t =>
    if c = '\x22' ∨ c = '\x27' then
      match t.dropWhile (· != c) with
      | [] => []
      | _ :: r => [r]
    else if isUnquoted c then unquotedEnds t
    else []

/-- The places where the first attribute of a text may end. -/
def attributeEnds (t : Text) : List Text :=
  match t, t.dropWhile isBlank with
  | b :: _, c :: r =>
    if isBlank b && isAttributeStart c then
      let r := r.dropWhile isAttributeChar
      match r.dropWhile isBlank with
      | '=' :: v => valueEnds (v.dropWhile isBlank) ++ [r]
      | _ => [r]
    else []
  | _, _ => []

/-- What is behind the end of an opening tag. -/
def tagClose? (t : Text) : Option Text :=
  match t.dropWhile isBlank with
  | '>' :: r => some r
  | '/' :: '>' :: r => some r
  | _ => none

/-- What is behind the attributes and the end of an opening tag; each attribute takes at least two
characters. -/
def attributesClose? : (fuel : Nat) → Text → Option Text
  | 0, t => tagClose? t
  | fuel + 1, t => ((attributeEnds t).findSome? (attributesClose? fuel)).or (tagClose? t)

/-! ## Tags -/

/-- What is behind an opening tag. -/
def openTag? : Text → Option Text
  | '<' :: t => (tagName? t).bind fun r => attributesClose? r.length r
  | _ => none

/-- What is behind a closing tag. -/
def closeTag? : Text → Option Text
  | '<' :: '/' :: t => (tagName? t).bind fun r =>
    match r.dropWhile isBlank with
    | '>' :: r => some r
    | _ => none
  | _ => none

/-! ## Comments and the like -/

/-- What is behind the end of a comment. -/
def commentEnd? : Text → Option Text
  | '-' :: '-' :: '>' :: t => some t
  | '-' :: '-' :: _ :: t => commentEnd? t
  | ['-', '-'] => none
  | '-' :: _ :: t => commentEnd? t
  | ['-'] => none
  | _ :: t => commentEnd? t
  | [] => none

/-- What is behind the first occurrence of a text. -/
def behind? (w : Text) : Text → Option Text
  | [] => if w = [] then some [] else none
  | c :: t => if w.isPrefixOf (c :: t) then some ((c :: t).drop w.length) else behind? w t

/-- What is behind a comment. -/
def rawComment? : Text → Option Text
  | '<' :: '!' :: '-' :: '-' :: t =>
    match t with
    | '>' :: r => some r
    | '-' :: '>' :: r => some r
    | _ => commentEnd? t
  | _ => none

/-- What is behind an instruction, a declaration or a literal section. -/
def rawOther? : Text → Option Text
  | '<' :: '?' :: t => behind? "?>".toList t
  | '<' :: '!' :: c :: t =>
    if c.isAlpha then behind? ['>'] t
    else if "[CDATA[".toList.isPrefixOf (c :: t) then behind? "]]>".toList (t.drop 6)
    else none
  | _ => none

/-- What is behind a piece of raw markup. -/
def rawMarkup? (t : Text) : Option Text :=
  (openTag? t).or ((closeTag? t).or ((rawComment? t).or (rawOther? t)))

end Concordance.Markdown
