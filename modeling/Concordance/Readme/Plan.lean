import Concordance.Reporter
import Concordance.Section

/-!
# Keeping the index document in step

The index document lists the headings of the body in order, each as a link in a nested list.  One
pass over its entries finds the lines to remove and the lines to insert.
-/

namespace Concordance.Readme

/-! ## Entries -/

/-- A link in a list of the index document. -/
structure Entry where
  /-- How deep the link's list item is nested. -/
  level : Int
  title : Text
  /-- The link as written. -/
  anchor : Text
  location : Location
  deriving DecidableEq, Repr

/-- The entry, unless its level is out of range. -/
def Entry.validate (e : Entry) : Except LevelFault Entry := (checkLevel e.level).map fun _ => e

/-- The line of the index document for a heading. -/
def link (level : Int) (title anchor : Text) : Text :=
  List.replicate (2 * (level - 1).toNat) ' ' ++ "* [".toList ++ title ++ "](".toList ++ anchor ++
    [')']

/-! ## Edits -/

/-- What to do with a line. -/
inductive EditKind where
  | insert
  | remove
  deriving DecidableEq, Repr

/-- A line to insert or to remove. -/
structure Edit where
  kind : EditKind
  link : Text
  location : Location
  deriving DecidableEq, Repr

/-- The place of an entry among the headings: the first heading of its level and its anchor. -/
def position? (headings : List Section) (e : Entry) : Option Nat :=
  headings.findIdx? fun h => h.level == e.level && h.anchor == linkAnchor e.anchor

/-- Remove an entry that lists no heading. -/
def removal (e : Entry) : Edit := ⟨.remove, link e.level e.title e.anchor, e.location⟩

/-- Insert a heading where an entry stands. -/
def insertion (location : Location) (h : Section) : Edit :=
  ⟨.insert, link h.level h.title h.anchor, location⟩

/-- The edits for entries when the headings before `expected` have been dealt with.  An entry that
points back changes nothing; one that points ahead asks for the headings it skips. -/
def planFrom (headings : List Section) (expected : Nat) : List Entry → List Edit
  | [] => []
  | e :: es =>
    match position? headings e with
    | none => removal e :: planFrom headings expected es
    | some p =>
      if p < expected then planFrom headings expected es
      else
        ((headings.drop expected).take (p - expected)).map (insertion e.location) ++
          planFrom headings (p + 1) es

/-- The edits that bring entries in line with headings. -/
def plan (headings : List Section) (entries : List Entry) : List Edit :=
  planFrom headings 0 entries

/-! ## Reports -/

/-- Report an edit. -/
def Edit.report (r : Reporter) (e : Edit) : Reporter :=
  match e.kind with
  | .remove => r.error .readmeRemove ("Remove: ".toList ++ e.link) (some e.location)
  | .insert => r.error .readmeInsert ("Insert: ".toList ++ e.link) (some e.location)

/-- Plan the edits for the headings of the first two levels and report them. -/
def reconcile (sections : List Section) (entries : List Entry) (r : Reporter) :
    List Edit × Reporter :=
  let edits := plan (bodyHeadings sections) entries
  match bodyHeadings sections with
  | [] => ([], r)
  | _ => (edits, edits.foldl Edit.report r)

end Concordance.Readme
