import Concordance.Text.Basic

/-!
# Blocks

The blocks of a document.  Running text is kept as it was written; it is read later, when all
definitions of links are known.
-/

namespace Concordance.Markdown

mutual

/-- A block, with the number of its first line from zero. -/
inductive Block where
  | paragraph (line : Nat) (text : Text)
  | heading (line level : Nat) (text : Text)
  | code (line : Nat) (text : Text)
  /-- Code between fences; `info` stands behind the opening fence. -/
  | fence (line : Nat) (info text : Text)
  | markup (line : Nat) (text : Text)
  | thematicBreak (line : Nat)
  | quote (line : Nat) (body : List Block)
  /-- A list; an ordered one has the number of its first item.  In a tight list the paragraphs of
  the items are set without space between them. -/
  | list (line : Nat) (start : Option Nat) (tight : Bool) (items : List Item)
  | table (line : Nat) (head : List Text) (rows : List (List Text))
  /-- A definition of a link; it leaves no trace of its own. -/
  | definition (key destination title : Text)

/-- An item of a list, with the number of its first line from zero. -/
inductive Item where
  | mk (line : Nat) (body : List Block)

end

end Concordance.Markdown
