import Concordance.Diagnostic
import Concordance.Path
import Concordance.Text.Alphanumeric
import Concordance.Text.Case

/-!
# Sections

A section is a numbered heading.  Its anchor is made of the name of its file and the slug of its
title; a link to a document is reduced to the same form, so that links and sections can be
compared.
-/

namespace Concordance

open Text

/-! ## Anchors -/

/-- The slug of a title: its runs of letters and digits in lower case, joined by hyphens. -/
def slug (title : Text) : Text := joinWith ['-'] (runs isAlphanumeric (lower (trim title)))

/-- The anchor of a title in a file. -/
def anchor (title file : Text) : Text := file ++ ['#'] ++ slug title

/-- The file name and the fragment of a link; the fragment begins behind the first `#`. -/
def splitLink (href : Text) : Text × Text :=
  let (path, fragment) := cut '#' href
  (Path.name path, fragment)

/-- A link reduced to the form of an anchor: no directories, and no `#` before an empty
fragment. -/
def linkAnchor (href : Text) : Text :=
  match splitLink href with
  | (name, []) => name
  | (name, fragment) => name ++ ['#'] ++ fragment

/-! ## Numbers -/

/-- The deepest level of heading that is numbered. -/
def maxLevel : Nat := 4

/-- The last number used at each level. -/
structure Counters where
  first : Int := 0
  second : Int := 0
  third : Int := 0
  fourth : Int := 0
  deriving DecidableEq, Repr

namespace Counters

/-- The counters from the shallowest level to the deepest. -/
def toList (c : Counters) : List Int := [c.first, c.second, c.third, c.fourth]

/-- Count a heading: its level's counter goes up, and the deeper ones start again.  A level that is
not numbered changes nothing. -/
def advance (c : Counters) : Int → Counters
  | 1 => { first := c.first + 1 }
  | 2 => { c with second := c.second + 1, third := 0, fourth := 0 }
  | 3 => { c with third := c.third + 1, fourth := 0 }
  | 4 => { c with fourth := c.fourth + 1 }
  | _ => c

/-- The first `level` counters, or, for a negative level, all but the last `-level`. -/
def leading (c : Counters) (level : Int) : List Int :=
  if 0 ≤ level then c.toList.take level.toNat
  else c.toList.take (c.toList.length - level.natAbs)

/-- The number of a heading, from counters that have counted it. -/
def number (c : Counters) (level : Int) : Text :=
  joinWith ['.'] ((c.leading level).map ofInt)

end Counters

/-! ## Sections -/

/-- A numbered heading. -/
structure Section where
  level : Int
  number : Text
  title : Text
  anchor : Text
  sourceFile : Text := []
  deriving DecidableEq, Repr

/-- What can be wrong with a level. -/
inductive LevelFault where
  | tooSmall
  | tooLarge
  deriving DecidableEq, Repr

/-- A level is at least one, and at most the given one. -/
def checkLevel (level : Int) (most : Option Nat := none) : Except LevelFault Unit :=
  if level < 1 then .error .tooSmall
  else match most with
    | some m => if level > m then .error .tooLarge else .ok ()
    | none => .ok ()

/-- The section, unless its level is out of range. -/
def Section.validate (s : Section) : Except LevelFault Section :=
  (checkLevel s.level (some maxLevel)).map fun _ => s

/-- How a section is named in diagnostics. -/
def Section.label (s : Section) : Text := s.number ++ [' '] ++ s.title

/-- The sections whose level is at most `most`. -/
def bodyHeadings (sections : List Section) (most : Int := 2) : List Section :=
  sections.filter fun s => s.level ≤ most

end Concordance
