import Concordance.Agreement
import Concordance.FileTree
import Concordance.Markdown.Outline
import Concordance.Model
import Concordance.Readme.Order
import Concordance.Settings

/-!
# Checking a specification

A run reads the documents, collects their sections and their grammar, and compares them with the
index document and with the grammar that has authority, where these are given.  What is wrong with
the specification is reported; what keeps the run from reading its input ends it.
-/

namespace Concordance

/-! ## Options, results and failures -/

/-- The options of a run. -/
structure Options where
  language : Text
  startSymbol : Text
  extension : Text
  encoding : Text
  /-- Whether the documents are taken in the order in which the index document links them. -/
  orderByReadme : Bool := false
  deriving DecidableEq, Repr

/-- The options that settings make. -/
def Settings.options (s : Settings) : Options :=
  { language := s.language
    startSymbol := s.startSymbol
    extension := s.extension
    encoding := s.encoding }

/-- What a run finds. -/
structure Result where
  sections : List Section
  grammar : Grammar
  /-- The grammar that has authority, with links to the sections. -/
  authority : Option Grammar := none
  diagnostics : List Diagnostic
  deriving DecidableEq, Repr

/-- What ends a run. -/
inductive Failure where
  /-- An input file cannot be read. -/
  | unreadable (path : Text) (fault : FileTree.ReadFault)
  /-- The grammar that has authority is not well formed. -/
  | grammar (fault : Notation.Fault)
  /-- The entries of the index document cannot be read. -/
  | entries (fault : Readme.EntryFault)
  /-- The index document links a document that is not there. -/
  | unknownLink (name : Text)
  deriving DecidableEq, Repr

/-! ## Reading -/

/-- Read a text. -/
def readInput (tree : FileTree) (path encoding : Text) : Except Failure Text :=
  (tree.readText path encoding).mapError (.unreadable path)

/-- Read the documents at some paths. -/
def loadDocuments (tree : FileTree) (paths : List Text) (encoding : Text) :
    Except Failure (List Document) :=
  paths.mapM fun p => (readInput tree p encoding).map (Document.read (Path.normalize p))

/-- Read the grammar in a file; a fault in it names the file. -/
def loadGrammar (tree : FileTree) (path encoding : Text) : Except Failure Grammar :=
  (readInput tree path encoding).bind fun text =>
    (Notation.read text (Path.name path)).mapError .grammar

/-- The documents in the order in which an index document links them. -/
def orderDocuments (text : Text) (files : List Text) (extension : Text) :
    Except Failure (List Text) :=
  (Readme.order text files extension).mapError fun
    | .entries f => .entries f
    | .unknown n => .unknownLink n

/-! ## The stages of a run -/

/-- The index document of a run: its path as given, and its text. -/
structure IndexDocument where
  path : Text
  text : Text

/-- Read the index document, if there is one, and put the documents in order. -/
def openIndex (tree : FileTree) (o : Options) (files : List Text) :
    Option Text → Except Failure (Option IndexDocument × List Text)
  | none => .ok (none, files)
  | some path =>
    (readInput tree path o.encoding).bind fun text =>
      if o.orderByReadme then
        (orderDocuments text files o.extension).map fun files => (some ⟨path, text⟩, files)
      else .ok (some ⟨path, text⟩, files)

/-- Compare the sections with the index document. -/
def compareIndex (o : Options) (sections : List Section) (r : Reporter) :
    Option IndexDocument → Except Failure Reporter
  | none => .ok r
  | some d =>
    ((Readme.entries d.text d.path o.extension).mapError .entries).map fun es =>
      (Readme.reconcile sections es r).2

/-- Compare the grammar with the one that has authority, and link that one to the sections. -/
def compareAuthority (o : Options) (toolName : Text) (g : Grammar) (r : Reporter)
    (authority : Grammar) : Grammar × Reporter :=
  (authority.linkFrom g,
    reportDifferences (authority.compare g o.startSymbol) { file := toolName } r)

/-- The result of a run that has collected a model. -/
def Model.result (m : Model) (authority : Option Grammar) (r : Reporter) : Result :=
  { sections := m.sections, grammar := m.grammar, authority := authority,
    diagnostics := r.diagnostics }

/-- Check the specification in some files.  The reporter tells what was noted before a failure. -/
def check (tree : FileTree) (files : List Text) (readme grammarFile : Option Text) (o : Options)
    (toolName : Text) : Except Failure Result × Reporter :=
  let r := Reporter.new toolName
  match openIndex tree o files readme with
  | .error f => (.error f, r)
  | .ok (index, files) =>
    let r := r.note (.reading files.length)
    match loadDocuments tree files o.encoding with
    | .error f => (.error f, r)
    | .ok documents =>
      let (m, r) := buildModel o.language documents r
      match compareIndex o m.sections r index with
      | .error f => (.error f, r)
      | .ok r =>
        match grammarFile with
        | none => (.ok (m.result none r), r)
        | some path =>
          let r := r.note (.readingAuthority path)
          match loadGrammar tree path o.encoding with
          | .error f => (.error f, r)
          | .ok authority =>
            let (linked, r) := compareAuthority o toolName m.grammar r authority
            (.ok (m.result (some linked) r), r)

/-- Check the specification in one text. -/
def checkText (text path : Text) (o : Options) (toolName : Text) : Result × Reporter :=
  let r := Reporter.new (if path = [] then toolName else path)
  let (m, r) := buildModel o.language [Document.read path text] r
  (m.result none r, r)

end Concordance
