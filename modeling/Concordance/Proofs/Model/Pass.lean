import Concordance.Model
import Concordance.Proofs.Index.Step

/-!
# One paragraph, and a run of them

What the pass makes of one paragraph is said once: the pass behind it, and what is reported.
Everything about a whole run follows from that, since contexts are left as they were entered.

* `Pass.paragraph_eq`: a paragraph moves the pass and adds findings, and leaves the reporter
  otherwise alone.
* `buildModel_eq`: the documents of a run may be laid end to end, each paragraph with the path that
  it has.
* `findingsAlong_eq_behind`: what is reported at a paragraph depends on those before it only
  through the pass.
-/

namespace Concordance

open Text

/-! ## Histories -/

/-- What the elements of a list make, each of them behind those before it. -/
def behind {α β : Type} (f : List α → α → List β) (before : List α) : List α → List β
  | [] => []
  | x :: xs => f before x ++ behind f (before ++ [x]) xs

section

variable {α β : Type} {f : List α → α → List β}

theorem behind_append (before xs ys : List α) :
    behind f before (xs ++ ys) = behind f before xs ++ behind f (before ++ xs) ys := by
  induction xs generalizing before with
  | nil => simp [behind]
  | cons x xs ih => simp [behind, ih]

theorem behind_singleton (before : List α) (x : α) : behind f before [x] = f before x := by
  simp [behind]

theorem mem_behind {y : β} {before xs : List α} (h : y ∈ behind f before xs) :
    ∃ ys x zs, xs = ys ++ x :: zs ∧ y ∈ f (before ++ ys) x := by
  induction xs generalizing before with
  | nil => simp [behind] at h
  | cons x xs ih =>
    rcases List.mem_append.1 h with h | h
    · exact ⟨[], x, xs, rfl, by rwa [List.append_nil]⟩
    · obtain ⟨ys, z, zs, rfl, hy⟩ := ih h
      exact ⟨x :: ys, z, zs, rfl, by rwa [List.append_cons]⟩

end

/-! ## Findings -/

namespace Reporter

/-- A reporter with more findings. -/
def found (r : Reporter) (ds : List Diagnostic) : Reporter :=
  { r with journal := r.journal ++ ds.map .finding }

@[simp] theorem found_nil (r : Reporter) : r.found [] = r := by simp [found]

@[simp] theorem found_found (r : Reporter) (ds es : List Diagnostic) :
    (r.found ds).found es = r.found (ds ++ es) := by
  simp [found]

@[simp] theorem location_found (r : Reporter) (ds : List Diagnostic) :
    (r.found ds).location = r.location := rfl

@[simp] theorem diagnostics_found (r : Reporter) (ds : List Diagnostic) :
    (r.found ds).diagnostics = r.diagnostics ++ ds := by
  simp only [diagnostics, found, List.filterMap_append, List.filterMap_map]
  exact congrArg (_ ++ ·) List.filterMap_some

@[simp] theorem diagnostics_note_built (r : Reporter) (sections productions : Nat) :
    (r.note (.built sections productions)).diagnostics = r.diagnostics := by
  simp [diagnostics, note, Note.finding?]

/-- A context is left as it was entered; what is found inside stays. -/
theorem within_found {α : Type} {r : Reporter} {file : Option Text} {line : Setting Int}
    {label : Setting Text} {step : Reporter → α × Reporter} {a : α} {ds : List Diagnostic}
    (h : ∀ inner : Reporter, inner.location = Context.frame r.location ⟨file, line, label⟩ →
      step inner = (a, inner.found ds)) :
    r.within file line label step = (a, r.found ds) := by
  rw [within, h _ rfl]
  rfl

end Reporter

/-- What is said about a verdict, if it is a fault of the document. -/
def Index.Verdict.finding? (h : Heading) : Index.Verdict → Option (Code × Text)
  | .unfit f => some (.sectionConstructError, f.message)
  | .noLevel _ => some (.sectionConstructError, Pass.levelMessage h.level)
  | .tooDeep => some (.headingDepth, "Only heading depths up to #### are supported".toList)
  | .duplicate s => some (.duplicateAnchor, "Duplicate section title ".toList ++ s.anchor)
  | .accepted _ => none

/-- An error at a location. -/
def Location.error (l : Location) (x : Code × Text) : Diagnostic := ⟨x.1, .error, x.2, l⟩

/-- The warning at a location about a name that occurs again. -/
def Location.repeated (l : Location) (n : Text) : Diagnostic :=
  ⟨.duplicateProduction, .warning, "Duplicate grammar for ".toList ++ n, l⟩

namespace Grammar

/-- The name of a production, if it has one that occurs before. -/
def repeats (before : Grammar) (p : Production) : List Text := (p.name.filter before.has).toList

/-- One production is added, and reported if its name occurs before. -/
theorem add_eq (g : Grammar) (r : Reporter) (p : Production) :
    Grammar.add g r p = (g ++ [p], r.found ((repeats g p).map r.location.repeated)) := by
  cases hn : p.name with
  | none => simp [add, repeats, hn]
  | some n =>
    simp only [add, repeats, hn, Option.filter_some]
    split
    · rfl
    · simp

theorem addAll_eq (g : Grammar) (r : Reporter) (ps : List Production) :
    Grammar.addAll g r ps =
      (g ++ ps, r.found ((behind repeats g ps).map r.location.repeated)) := by
  induction ps generalizing g r with
  | nil => simp [addAll, behind]
  | cons p ps ih =>
    have hrest := ih (g ++ [p]) (r.found ((repeats g p).map r.location.repeated))
    simp only [addAll, List.foldl_cons, add_eq] at hrest ⊢
    rw [hrest]
    simp [behind]

end Grammar

/-! ## One paragraph -/

namespace Pass

/-- The productions of a fragment, linked to the current section; none if it cannot be read. -/
def productions (p : Pass) (code file : Text) : Grammar :=
  match readFragment code p.index.current file with
  | .ok ps => ps
  | .error _ => []

/-- What is reported about a fragment. -/
def fragmentFindings (p : Pass) (code file : Text) (l : Location) : List Diagnostic :=
  match readFragment code p.index.current file with
  | .ok ps => (behind Grammar.repeats p.grammar ps).map l.repeated
  | .error f => [l.error (.grammarParseError, f.message)]

/-- The pass behind a paragraph of a file. -/
def next (language file : Text) (p : Pass) : Paragraph → Pass
  | .heading h => { p with index := p.index.add h file }
  | .code l text _ =>
    if l = language then { p with grammar := p.grammar ++ p.productions text file } else p
  | _ => p

/-- What is reported about a paragraph of a file, where `path` is the path that diagnostics
show. -/
def findings (language file path : Text) (p : Pass) : Paragraph → List Diagnostic
  | .heading h =>
    ((p.index.judge h file).finding? h).toList.map (Location.error ⟨path, h.line, none⟩)
  | .code l text line =>
    if l = language then
      p.fragmentFindings text file ⟨path, line, p.index.current.map Section.label⟩
    else []
  | _ => []

theorem heading_eq (p : Pass) (h : Heading) (file : Text) (r : Reporter) :
    p.heading h file r = ({ p with index := p.index.add h file },
      r.found (((p.index.judge h file).finding? h).toList.map r.location.error)) := by
  rw [heading, Index.add]
  cases p.index.judge h file with
  | accepted s => simp [Index.Verdict.report, Index.Verdict.finding?]
  | _ => rfl

theorem fragment_eq (p : Pass) (code file : Text) (r : Reporter) :
    p.fragment code file r = ({ p with grammar := p.grammar ++ p.productions code file },
      r.found (p.fragmentFindings code file r.location)) := by
  rw [fragment, productions, fragmentFindings]
  cases readFragment code p.index.current file with
  | ok ps => simp only [Grammar.addAll_eq]
  | error f => simp only [List.append_nil]; rfl

/-- A paragraph moves the pass and adds findings; the reporter is otherwise as before. -/
theorem paragraph_eq (language file : Text) (p : Pass) (r : Reporter) (b : Paragraph) :
    paragraph language file p r b =
      (p.next language file b, r.found (p.findings language file r.location.file b)) := by
  cases b with
  | heading h =>
    rw [paragraph, next, findings]
    refine Reporter.within_found fun inner hinner => ?_
    rw [heading_eq, hinner]
    rfl
  | code l text line =>
    rw [paragraph, next, findings]
    split
    · refine Reporter.within_found fun inner hinner => ?_
      rw [fragment_eq, hinner]
      rfl
    · simp
  | list => simp [paragraph, next, findings]
  | other => simp [paragraph, next, findings]

/-! ## Runs -/

/-- The pass behind paragraphs, each with the path of its document. -/
def along (language : Text) (p : Pass) (xs : List (Text × Paragraph)) : Pass :=
  xs.foldl (fun p x => p.next language (Path.name x.1) x.2) p

/-- The path that diagnostics show: that of the document, or the file around it if there is
none. -/
def shownPath (outer path : Text) : Text := if path = [] then outer else path

/-- What is reported about paragraphs. -/
def findingsAlong (language outer : Text) (p : Pass) : List (Text × Paragraph) → List Diagnostic
  | [] => []
  | (path, b) :: xs =>
    p.findings language (Path.name path) (shownPath outer path) b ++
      findingsAlong language outer (p.next language (Path.name path) b) xs

theorem along_append (language : Text) (p : Pass) (xs ys : List (Text × Paragraph)) :
    p.along language (xs ++ ys) = (p.along language xs).along language ys :=
  List.foldl_append

theorem findingsAlong_append (language outer : Text) (p : Pass) (xs ys : List (Text × Paragraph)) :
    p.findingsAlong language outer (xs ++ ys) =
      p.findingsAlong language outer xs ++
        (p.along language xs).findingsAlong language outer ys := by
  induction xs generalizing p with
  | nil => rfl
  | cons x xs ih => simp [findingsAlong, ih, along]

/-- What is reported at a paragraph depends on those before it only through the pass. -/
theorem findingsAlong_eq_behind (language outer : Text) (before xs : List (Text × Paragraph)) :
    (along language {} before).findingsAlong language outer xs =
      behind (fun before x => (along language {} before).findings language (Path.name x.1)
        (shownPath outer x.1) x.2) before xs := by
  induction xs generalizing before with
  | nil => rfl
  | cons x xs ih =>
    rw [findingsAlong, behind, ← ih, along_append]
    rfl

end Pass

/-! ## Documents end to end -/

/-- The paragraphs of a document, each with its path. -/
def Document.located (d : Document) : List (Text × Paragraph) :=
  d.paragraphs.map fun b => (d.path, b)

/-- The paragraphs of documents, in order, each with the path of its document. -/
def paragraphsOf (documents : List Document) : List (Text × Paragraph) :=
  documents.flatMap Document.located

theorem paragraphsOf_cons (d : Document) (ds : List Document) :
    paragraphsOf (d :: ds) = d.located ++ paragraphsOf ds := List.flatMap_cons

namespace Pass

theorem foldl_paragraph_eq (language : Text) {outer path : Text} (p : Pass) {r : Reporter}
    (hfile : r.location.file = shownPath outer path) (bs : List Paragraph) :
    bs.foldl (fun (p, r) b => paragraph language (Path.name path) p r b) (p, r) =
      (p.along language (bs.map fun b => (path, b)),
        r.found (p.findingsAlong language outer (bs.map fun b => (path, b)))) := by
  induction bs generalizing p r with
  | nil => simp [along, findingsAlong]
  | cons b bs ih =>
    have hfound : (r.found (p.findings language (Path.name path)
        (shownPath outer path) b)).location.file =
        shownPath outer path := hfile
    show bs.foldl _ (paragraph language (Path.name path) p r b) = _
    rw [paragraph_eq, hfile, ih _ hfound]
    simp [along, findingsAlong]

theorem document_eq (language : Text) (p : Pass) (r : Reporter) (d : Document) :
    document language p r d =
      (p.along language d.located, r.found
        (p.findingsAlong language r.location.file d.located)) := by
  refine Reporter.within_found fun inner hinner => foldl_paragraph_eq language p ?_ d.paragraphs
  rw [hinner, shownPath]
  split
  · rfl
  · simp only [Context.frame]
    split
    · rename_i hf
      exact hf.symm
    · rfl

theorem foldl_document_eq (language : Text) (p : Pass) (r : Reporter) (ds : List Document) :
    ds.foldl (fun (p, r) d => document language p r d) (p, r) =
      (p.along language (paragraphsOf ds),
        r.found (p.findingsAlong language r.location.file (paragraphsOf ds))) := by
  induction ds generalizing p r with
  | nil => simp [paragraphsOf, along, findingsAlong]
  | cons d ds ih =>
    show ds.foldl _ (document language p r d) = _
    rw [document_eq, ih, paragraphsOf_cons, along_append, findingsAlong_append]
    simp

end Pass

/-- The documents of a run may be laid end to end. -/
theorem buildModel_eq (language : Text) (documents : List Document) (r : Reporter) :
    buildModel language documents r =
      (⟨(Pass.along language {} (paragraphsOf documents)).index.sections,
          (Pass.along language {} (paragraphsOf documents)).grammar⟩,
        (r.found (Pass.findingsAlong language r.location.file {} (paragraphsOf documents))).note
          (.built (Pass.along language {} (paragraphsOf documents)).index.sections.length
            (Pass.along language {} (paragraphsOf documents)).grammar.length)) := by
  rw [buildModel, Pass.foldl_document_eq]

end Concordance
