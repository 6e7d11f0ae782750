import Concordance.Html.Tree
import Concordance.Markdown.Html
import Concordance.Readme.Plan
import Concordance.Text.Integer

/-!
# The entries of an index document

The index document is read as a page, and the links in its lists are its entries.  How deep an item
is nested is the level of its links.
-/

namespace Concordance.Readme

open Text Html

/-! ## Links on a page -/

/-- Elements whose text is not shown with the text around it. -/
def asideElements : List Text := ["rt", "rp", "script", "style", "template"].map String.toList

mutual

/-- The texts in a node. -/
def textsIn : Node → List Text
  | .element name _ children => if asideElements.contains name then [] else textsInAll children
  | .text t => [t]
  | .comment => []

/-- The texts in nodes, in order. -/
def textsInAll : List Node → List Text
  | [] => []
  | n :: ns => textsIn n ++ textsInAll ns

end

/-- A link on a page. -/
structure Link where
  href : Text
  title : Text

/-- The title of a link: its texts without blanks around them, joined by spaces. -/
def titleOf (children : List Node) : Text :=
  joinWith [' '] (((textsInAll children).map trim).filter (· ≠ []))

mutual

/-- The links in a node that are in no list item inside it. -/
def linksIn : Node → List Link
  | .element name attributes children =>
    if name = "li".toList then []
    else if name = "a".toList then
      ⟨(attributes.lookup "href".toList).getD [], titleOf children⟩ :: linksInAll children
    else linksInAll children
  | _ => []

/-- The links in nodes that are in no list item inside them. -/
def linksInAll : List Node → List Link
  | [] => []
  | n :: ns => linksIn n ++ linksInAll ns

end

/-! ## Items -/

/-- A list item on a page. -/
structure ListItem where
  /-- How many lists the item stands in. -/
  level : Nat
  /-- The line that the item carries, if any. -/
  line : Option Text
  links : List Link

mutual

/-- The items in a node that stands in `level` lists. -/
def itemsIn (level : Nat) : Node → List ListItem
  | .element name attributes children =>
    if name = "li".toList then
      ⟨level, attributes.lookup "data-line".toList, linksInAll children⟩ ::
        itemsInAll level children
    else
      let isList := name = "ul".toList || name = "ol".toList
      itemsInAll (if isList then level + 1 else level) children
  | _ => []

/-- The items in nodes, in order; an item stands before the items inside it. -/
def itemsInAll (level : Nat) : List Node → List ListItem
  | [] => []
  | n :: ns => itemsIn level n ++ itemsInAll level ns

end

/-! ## Entries -/

/-- Why the entries of a page cannot be read. -/
inductive EntryFault where
  /-- An item carries a line that is no number. -/
  | line (fault : IntegerFault)
  /-- A link stands in an item of no list. -/
  | level (fault : LevelFault)
  deriving DecidableEq, Repr

/-- Whether a link leads to a document with an extension; what is behind the first `#` does not
count. -/
def leadsToDocument (extension href : Text) : Bool :=
  let path := (cut '#' href).1
  path ≠ [] && endsWith (lower extension) (lower path)

/-- The entries of an item in a file. -/
def ListItem.entries (file extension : Text) (i : ListItem) : Except EntryFault (List Entry) :=
  let line? : Except EntryFault (Option Int) := match i.line with
    | some (c :: t) => (readInteger (c :: t)).mapError .line |>.map some
    | _ => .ok none
  match line? with
  | .error f => .error f
  | .ok line =>
    (i.links.filter fun l => leadsToDocument extension l.href).mapM fun l =>
      (Entry.validate ⟨i.level, l.title, l.href, { file := file, line := line }⟩).mapError .level

/-- The entries of an index document. -/
def entries (text file extension : Text) : Except EntryFault (List Entry) :=
  ((itemsInAll 0 (Html.parse (Markdown.page text))).mapM (ListItem.entries file extension)).map
    List.flatten

end Concordance.Readme
