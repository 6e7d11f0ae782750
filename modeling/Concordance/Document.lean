import Concordance.Heading

/-!
# Documents

A document is read as a sequence of paragraphs, one for each of its outermost blocks.
-/

namespace Concordance

/-- An outermost block of a document. -/
inductive Paragraph where
  | heading (heading : Heading)
  | code (language text : Text) (line : Option Int)
  | list (ordered : Bool) (items : Nat) (line : Option Int)
  | other (kind : Text) (line : Option Int)
  deriving DecidableEq, Repr

/-- A document. -/
structure Document where
  /-- The path as it was given; diagnostics show it. -/
  path : Text
  paragraphs : List Paragraph
  deriving DecidableEq, Repr

/-- The file name of a document, with which its anchors begin. -/
def Document.name (d : Document) : Text := Path.name d.path

end Concordance
