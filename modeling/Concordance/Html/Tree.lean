import Concordance.Html.Token

/-!
# The tree of a page

Tags open and close elements.  A page may leave out closing tags: some opening tags close the
element they stand in, and a closing tag closes what is open inside its element, unless that ranks
higher.
-/

namespace Concordance.Html

open Text

/-- A node of a page. -/
inductive Node where
  | element (name : Text) (attributes : Attributes) (children : List Node)
  | text (t : Text)
  | comment

/-! ## What closes what -/

/-- Tags that frame a page; they open no element, because a page is read as the content of one. -/
def frameTags : List Text := ["html", "head", "body", "frameset"].map String.toList

/-- Elements that hold nothing. -/
def emptyElements : List Text :=
  ["area", "base", "basefont", "br", "col", "frame", "hr", "img", "input", "isindex", "link",
    "meta", "param"].map String.toList

/-- The elements that a paragraph cannot hold. -/
def blockTags : List String :=
  ["address", "blockquote", "caption", "center", "col", "colgroup", "dd", "dir", "div", "dl", "dt",
    "h1", "h2", "h3", "h4", "h5", "h6", "hr", "li", "listing", "menu", "ol", "p", "pre", "table",
    "tbody", "td", "tfoot", "th", "title", "tr", "ul", "xmp"]

/-- The tags that close an open element. -/
def closers : List (String × List String) :=
  let heading := ["fieldset", "form", "li", "p", "table"]
  [("a", ["a", "fieldset", "table", "td", "th"]),
    ("address", ["dd", "dl", "dt", "form", "li", "ul"]),
    ("b", ["center", "p", "td", "th"]),
    ("caption", ["col", "colgroup", "tbody", "tfoot", "thead", "tr"]),
    ("colgroup", ["colgroup", "tbody", "tfoot", "thead", "tr"]),
    ("dd", ["dt"]),
    ("dir", ["dd", "dl", "dt", "form", "ul"]),
    ("dl", ["form", "li"]),
    ("dt", ["dd", "dl"]),
    ("font", ["center", "td", "th"]),
    ("form", ["form"]),
    ("h1", heading), ("h2", heading), ("h3", heading), ("h4", heading), ("h5", heading),
    ("h6", heading),
    ("i", ["center"]),
    ("legend", ["fieldset"]),
    ("li", ["li"]),
    ("option", ["optgroup", "option"]),
    ("p", blockTags),
    ("pre", ["dd", "dl", "dt", "fieldset", "form", "li", "table", "ul"]),
    ("tbody", ["tbody", "tfoot"]),
    ("td", ["tbody", "td", "tfoot", "th", "tr"]),
    ("tfoot", ["tbody"]),
    ("th", ["tbody", "td", "tfoot", "th", "tr"]),
    ("thead", ["tbody", "tfoot"]),
    ("tr", ["tbody", "tfoot", "tr"]),
    ("u", ["p", "td", "th"])]

/-- Whether a tag closes an open element. -/
def closes (tag element : Text) : Bool :=
  ((closers.lookup (String.ofList element)).getD []).contains (String.ofList tag)

/-- The rank of an element; a closing tag does not close elements of a higher rank. -/
def rank (name : Text) : Nat :=
  ([("div", 150), ("td", 160), ("th", 160), ("tr", 170), ("thead", 180), ("tbody", 180),
    ("tfoot", 180), ("table", 190)].lookup (String.ofList name)).getD 100

/-! ## Building -/

/-- An open element, with its children so far, the last one first. -/
structure OpenElement where
  name : Text
  attributes : Attributes
  children : List Node

/-- A tree that is being built: the open elements, the innermost first, and the nodes outside them,
the last one first. -/
structure Growing where
  elements : List OpenElement := []
  roots : List Node := []

namespace Growing

/-- Put a node behind others, the last one first; a text behind a text goes on with it. -/
def push : Node → List Node → List Node
  | .text u, .text t :: ns => .text (t ++ u) :: ns
  | n, ns => n :: ns

/-- Add a node. -/
def add (g : Growing) (n : Node) : Growing :=
  match g.elements with
  | [] => { g with roots := push n g.roots }
  | e :: es => { g with elements := { e with children := push n e.children } :: es }

/-- Close the innermost element. -/
def closeOne (g : Growing) : Growing :=
  match g.elements with
  | [] => g
  | e :: es => add { g with elements := es } (.element e.name e.attributes e.children.reverse)

/-- Close `n` elements. -/
def close (n : Nat) (g : Growing) : Growing := n.repeat closeOne g

/-- Read a token. -/
def read (g : Growing) : Token → Growing
  | .text t => g.add (.text t)
  | .comment => g.add .comment
  | .opening name attributes empty =>
    if frameTags.contains name then g
    else
      let g := g.close (g.elements.takeWhile fun e => closes name e.name).length
      if empty || emptyElements.contains name then g.add (.element name attributes [])
      else { g with elements := ⟨name, attributes, []⟩ :: g.elements }
  | .closing name =>
    let inner := g.elements.takeWhile fun e => e.name != name
    if inner.length < g.elements.length && inner.all (fun e => rank e.name ≤ rank name) then
      g.close (inner.length + 1)
    else g

/-- The nodes, with all elements closed. -/
def nodes (g : Growing) : List Node := (g.close g.elements.length).roots.reverse

end Growing

/-- The nodes of a page. -/
def parse (t : Text) : List Node := ((tokens t).foldl Growing.read {}).nodes

end Concordance.Html
