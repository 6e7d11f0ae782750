import Concordance.Heading
import Concordance.Reporter

/-!
# The section index

The headings of all documents pass through the index in order.  It counts them, and keeps as
sections those whose anchor is new.
-/

namespace Concordance

/-- The index after some headings. -/
structure Index where
  counters : Counters := {}
  /-- The sections so far, in order. -/
  sections : List Section := []
  /-- The anchors that are taken. -/
  anchors : List Text := []
  /-- The section accepted last. -/
  current : Option Section := none
  deriving DecidableEq, Repr

namespace Index

/-- What the index makes of a heading. -/
inductive Verdict where
  /-- The content makes no title. -/
  | unfit (fault : HeadingFault)
  /-- The heading is deeper than sections go. -/
  | tooDeep
  /-- The level is no level of a section. -/
  | noLevel (fault : LevelFault)
  /-- A section with the same anchor is there already. -/
  | duplicate (s : Section)
  /-- The heading becomes a section. -/
  | accepted (s : Section)
  deriving DecidableEq, Repr

/-- Judge a heading of a file. -/
def judge (i : Index) (h : Heading) (file : Text) : Verdict :=
  match h.fault? with
  | some f => .unfit f
  | none =>
    if h.level > maxLevel then .tooDeep
    else match h.section (i.counters.advance h.level) file with
      | .error f => .noLevel f
      | .ok s => if s.anchor ∈ i.anchors then .duplicate s else .accepted s

/-- The index after a heading on which the verdict has been given.  A duplicate is counted. -/
def apply (i : Index) (h : Heading) : Verdict → Index
  | .unfit _ | .tooDeep => i
  | .noLevel _ => { i with counters := i.counters.advance h.level }
  | .duplicate _ => { i with counters := i.counters.advance h.level }
  | .accepted s =>
    { counters := i.counters.advance h.level
      sections := i.sections ++ [s]
      anchors := s.anchor :: i.anchors
      current := some s }

/-- Report a verdict that is a fault of the document. -/
def Verdict.report (r : Reporter) : Verdict → Reporter
  | .unfit f => r.error .sectionConstructError f.message
  | .tooDeep => r.error .headingDepth
      ("Only heading depths up to ".toList ++ List.replicate maxLevel '#' ++
        " are supported".toList)
  | .duplicate s => r.error .duplicateAnchor ("Duplicate section title ".toList ++ s.anchor)
  | .noLevel _ | .accepted _ => r

end Index

end Concordance
