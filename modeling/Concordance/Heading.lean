import Concordance.Section

/-!
# Headings

A heading becomes a section if its content makes a title: plain text with at least one letter or
digit.
-/

namespace Concordance

open Text

/-- A heading of a document. -/
structure Heading where
  level : Int
  text : Text
  line : Option Int := none
  /-- The kinds of content that a title cannot hold, in order, with repetitions. -/
  unsupported : List Text := []
  deriving DecidableEq, Repr

/-- Why a heading cannot become a section. -/
inductive HeadingFault where
  | unsupported (kinds : List Text)
  | empty
  | noAnchor (title : Text)
  deriving DecidableEq, Repr

/-- The order of code points. -/
def textLe : Text → Text → Bool
  | [], _ => true
  | _ :: _, [] => false
  | c :: s, d :: t => if c = d then textLe s t else c.toNat < d.toNat

/-- Put a text into an ascending list, unless it is there already. -/
def insertText (t : Text) : List Text → List Text
  | [] => [t]
  | u :: us => if t = u then u :: us else if textLe t u then t :: u :: us else u :: insertText t us

/-- The distinct texts of a list in ascending order. -/
def sortTexts (ts : List Text) : List Text := ts.foldl (fun us t => insertText t us) []

/-- What is said about a heading that cannot become a section. -/
def HeadingFault.message : HeadingFault → Text
  | .unsupported kinds =>
    "Unsupported content in heading: ".toList ++ joinWith ", ".toList (sortTexts kinds)
  | .empty => "Heading has no title text".toList
  | .noAnchor title => "Cannot derive an anchor from heading '".toList ++ title ++ ['\x27']

/-- Why a heading's content cannot become a title, if it cannot. -/
def Heading.fault? (h : Heading) : Option HeadingFault :=
  if h.unsupported ≠ [] then some (.unsupported h.unsupported)
  else if isBlankText h.text then some .empty
  else if slug h.text = [] then some (.noAnchor h.text)
  else none

/-- The section of a heading whose content is a title, numbered by counters that have counted
it. -/
def Heading.section (h : Heading) (c : Counters) (file : Text) : Except LevelFault Section :=
  Section.validate {
    level := h.level
    number := c.number h.level
    title := h.text
    anchor := anchor h.text file
    sourceFile := file }

end Concordance
