import Concordance.Document
import Concordance.Index
import Concordance.Notation.Reading

/-!
# The model of a specification

One pass over the paragraphs of all documents, in order, collects the sections and the grammar.  A
paragraph that cannot be used is reported and left out; it does not stop the pass.
-/

namespace Concordance

/-- The sections and the grammar of a specification. -/
structure Model where
  sections : List Section
  grammar : Grammar
  deriving DecidableEq, Repr

/-! ## Productions -/

/-- A production linked to the section it stands in, if any. -/
def Production.linkTo (s : Option Section) (p : Production) : Production :=
  match s with
  | some s => { p with linkAnchor := some s.anchor, linkTitle := some s.title }
  | none => p

/-- Add a production to a grammar, with a warning if its name is there already. -/
def Grammar.add (g : Grammar) (r : Reporter) (p : Production) : Grammar × Reporter :=
  let r := match p.name with
    | some n =>
      if g.has n then r.warning .duplicateProduction ("Duplicate grammar for ".toList ++ n) else r
    | none => r
  (g ++ [p], r)

/-- Add productions to a grammar, in order. -/
def Grammar.addAll (g : Grammar) (r : Reporter) (ps : List Production) : Grammar × Reporter :=
  ps.foldl (fun (g, r) p => Grammar.add g r p) (g, r)

/-- Read a fragment of grammar and link its productions to a section. -/
def readFragment (code : Text) (s : Option Section) (source : Text) :
    Except Notation.Fault (List Production) :=
  (Notation.read code source).map fun ps => ps.map (Production.linkTo s)

/-! ## The pass over the paragraphs -/

/-- What the pass carries from paragraph to paragraph. -/
structure Pass where
  index : Index := {}
  grammar : Grammar := []

namespace Pass

/-- What is said about a level that no section can have. -/
def levelMessage (level : Int) : Text :=
  let shown := Text.ofInt level
  let shown := if 50 < shown.length then
      shown.take 25 ++ "...".toList ++ shown.drop (shown.length - 24)
    else shown
  "1 validation error for Section\nlevel\n  Input should be greater than or equal to 1 ".toList ++
    "[type=greater_than_equal, input_value=".toList ++ shown ++ ", input_type=int]\n".toList ++
    "    For further information visit ".toList ++
    "https://errors.pydantic.dev/2.14/v/greater_than_equal".toList

/-- Pass over a heading of a file. -/
def heading (p : Pass) (h : Heading) (file : Text) (r : Reporter) : Pass × Reporter :=
  let verdict := p.index.judge h file
  let r := match verdict with
    | .noLevel _ => r.error .sectionConstructError (levelMessage h.level)
    | v => v.report r
  ({ p with index := p.index.apply h verdict }, r)

/-- Pass over a fragment of grammar in a file. -/
def fragment (p : Pass) (code file : Text) (r : Reporter) : Pass × Reporter :=
  match readFragment code p.index.current file with
  | .error f => (p, r.error .grammarParseError f.message)
  | .ok ps =>
    let (g, r) := Grammar.addAll p.grammar r ps
    ({ p with grammar := g }, r)

/-- Pass over a paragraph of a file.  Code in another language and other blocks say nothing. -/
def paragraph (language file : Text) (p : Pass) (r : Reporter) : Paragraph → Pass × Reporter
  | .heading h => r.within none (.given h.line) (.given none) (p.heading h file)
  | .code l text line =>
    if l = language then
      r.within none (.given line) (.given (p.index.current.map Section.label))
        (p.fragment text file)
    else (p, r)
  | _ => (p, r)

/-- Pass over a document. -/
def document (language : Text) (p : Pass) (r : Reporter) (d : Document) : Pass × Reporter :=
  let file := if d.path = [] then none else some d.path
  r.within file (.given none) (.given none) fun r =>
    d.paragraphs.foldl (fun (p, r) b => paragraph language d.name p r b) (p, r)

end Pass

/-- Collect the sections and the grammar of documents. -/
def buildModel (language : Text) (documents : List Document) (r : Reporter) : Model × Reporter :=
  let (p, r) := documents.foldl (fun (p, r) d => Pass.document language p r d) ({}, r)
  (⟨p.index.sections, p.grammar⟩, r.note (.built p.index.sections.length p.grammar.length))

end Concordance
