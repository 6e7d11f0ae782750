import Concordance.Text.Basic

/-!
# Spans

Running text as a tree: plain text, breaks, code, raw markup, images, and the emphasis and links
that hold spans of their own.
-/

namespace Concordance.Markdown

open Text

/-- Where a link leads, and what it is called there. -/
structure Target where
  destination : Text
  title : Text
  deriving DecidableEq, Repr

/-- A piece of running text. -/
inductive Span where
  | text (t : Text)
  | code (t : Text)
  /-- A line break that only the source has. -/
  | softBreak
  | hardBreak
  /-- A tag or another piece of raw markup. -/
  | markup (t : Text)
  /-- An image; the text of its label stands for it where it cannot be shown. -/
  | image (target : Target) (label : Text)
  /-- Emphasis between two signs. -/
  | emphasis (sign : Char) (body : List Span)
  | strong (body : List Span)
  | link (target : Target) (body : List Span)

/-- What running text holds that is not text. -/
inductive Unsupported where
  | image
  | markup
  deriving DecidableEq, Repr

mutual

/-- The text of a span; a break counts as a space, and images and raw markup have no text. -/
def Span.plain : Span → Text
  | .text t => t
  | .code t => t
  | .softBreak => [' ']
  | .hardBreak => [' ']
  | .markup _ => []
  | .image _ _ => []
  | .emphasis _ body => plainAll body
  | .strong body => plainAll body
  | .link _ body => plainAll body

/-- The text of spans. -/
def plainAll : List Span → Text
  | [] => []
  | s :: ss => s.plain ++ plainAll ss

end

mutual

/-- The images and raw tags in a span. -/
def Span.unsupported : Span → List Unsupported
  | .markup _ => [.markup]
  | .image _ _ => [.image]
  | .emphasis _ body => unsupportedAll body
  | .strong body => unsupportedAll body
  | .link _ body => unsupportedAll body
  | _ => []

/-- The images and raw tags in spans, in their order. -/
def unsupportedAll : List Span → List Unsupported
  | [] => []
  | s :: ss => s.unsupported ++ unsupportedAll ss

end

end Concordance.Markdown
