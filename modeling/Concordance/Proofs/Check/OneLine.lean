import Concordance.Proofs.Check.Endings
import Concordance.Proofs.Check.OneFile
import Concordance.Proofs.Agreement.Fragments
import Concordance.Proofs.Model.OneLine
import Concordance.Proofs.Readme.Links
import Concordance.Proofs.Readme.Records

/-!
# Diagnostics on one line

A diagnostic is shown on one line, and an edit of the index document is a line of it.  Where the
paths of a run are lines, one thing alone stands against this: an entry is removed by the text and
the destination of its link as they are, and these may hold line breaks.

* `Readme.isLine_of_mem_plan`: what is inserted is a line; what is removed is one if its entry is.
* `Difference.isLine_message`: what is said about two grammars is a line, because line breaks are
  escaped.
* `exists_finds_of_check`: the diagnostics of a run are those of its documents, its edits and its
  disagreements.
-/

namespace Concordance

open Text

/-! ## Edits -/

namespace Readme

variable {headings : List Section} {es : List Entry} {d : Edit} {e : Entry}

/-- An entry whose title and destination are lines. -/
def Entry.IsLine (e : Entry) : Prop := Text.IsLine e.title ∧ Text.IsLine e.anchor

theorem isLine_link (level : Int) (title anchor : Text) :
    Text.IsLine (link level title anchor) ↔ Text.IsLine title ∧ Text.IsLine anchor := by
  have hspaces : Text.IsLine (List.replicate (2 * (level - 1).toNat) ' ') :=
    isLine_of_all (p := (· == ' ')) rfl rfl fun c hc => beq_iff_eq.2 (List.eq_of_mem_replicate hc)
  have hopen : Text.IsLine "* [".toList := by decide
  have hbetween : Text.IsLine "](".toList := by decide
  have hclose : Text.IsLine [')'] := by decide
  simp only [link, isLine_append, hspaces, hopen, hbetween, hclose, true_and, and_true]

/-- An edit removes an entry that lists no heading, or it inserts a heading where an entry
stands. -/
theorem mem_plan (h : d ∈ plan headings es) :
    (∃ e ∈ es, position? headings e = none ∧ d = removal e) ∨
      ∃ e ∈ es, ∃ s ∈ headings, d = insertion e.location s := by
  rw [plan_eq_behind] at h
  obtain ⟨before, e, rest, rfl, hd⟩ := mem_behind h
  have he : e ∈ before ++ e :: rest := List.mem_append_right _ List.mem_cons_self
  rw [editsAt] at hd
  split at hd
  · rename_i hposition
    exact Or.inl ⟨e, he, hposition, List.mem_singleton.1 hd⟩
  · obtain ⟨x, hx, rfl⟩ := List.mem_map.1 hd
    obtain ⟨p, -, hx⟩ := List.mem_flatMap.1 hx
    exact Or.inr ⟨e, he, x.1, List.mem_of_getElem? (mem_between hx), rfl⟩

theorem exists_location_of_mem_plan (h : d ∈ plan headings es) :
    ∃ e ∈ es, d.location = e.location := by
  rcases mem_plan h with ⟨e, he, -, rfl⟩ | ⟨e, he, s, -, rfl⟩
  · exact ⟨e, he, rfl⟩
  · exact ⟨e, he, rfl⟩

/-- The line of an edit is one, unless the edit removes an entry that is none. -/
theorem isLine_of_mem_plan (hheadings : ∀ s ∈ headings, s.IsShowable) (h : d ∈ plan headings es) :
    ¬ Text.IsLine d.link ↔ ∃ e ∈ es, position? headings e = none ∧ d = removal e ∧ ¬ e.IsLine := by
  rcases mem_plan h with ⟨e, he, hposition, rfl⟩ | ⟨e, he, s, hs, rfl⟩
  · constructor
    · intro hline
      exact ⟨e, he, hposition, rfl, fun hentry => hline ((isLine_link _ _ _).2 hentry)⟩
    · rintro ⟨e', -, -, heq, hentry⟩ hline
      rw [heq] at hline
      exact hentry ((isLine_link _ _ _).1 hline)
  · refine iff_of_false (not_not.2
      ((isLine_link _ _ _).2 ⟨(hheadings s hs).title, (hheadings s hs).anchor⟩)) ?_
    rintro ⟨e', -, -, heq, -⟩
    cases congrArg Edit.kind heq

theorem Edit.isLine_render_finding (d : Edit) :
    Text.IsLine d.finding.render ↔
      (Text.IsLine d.location.file ∧ ∀ s ∈ d.location.label, Text.IsLine s) ∧
        Text.IsLine d.link := by
  have hremove : Text.IsLine "Remove: ".toList := by decide
  have hinsert : Text.IsLine "Insert: ".toList := by decide
  rw [Edit.finding]
  split <;> simp only [Diagnostic.isLine_render, Location.error, isLine_append, hremove,
    hinsert, true_and]

end Readme

/-! ## Disagreements -/

theorem isLine_onOneLine (t : Text) : IsLine (onOneLine t) := by
  refine isLine_of_subset fun c hc => ?_
  obtain ⟨d, -, hd⟩ := List.mem_flatMap.1 hc
  refine ⟨_, ?_, hd⟩
  split
  · decide
  split
  · decide
  · rename_i hr hn
    exact isLine_cons.2 ⟨⟨hr, hn⟩, by decide⟩

namespace Grammar

variable {g authority extracted : Grammar} {n start : Text} {p : Production} {d : Difference}

theorem of_mem_byName (h : (n, p) ∈ byName g) : p ∈ g ∧ p.name = some n := by
  have hfind : g.reverse.find? (fun p => p.name == some n) = some p := last?_of_mem_byName h
  have hname := List.find?_some (p := fun p : Production => p.name == some n) hfind
  exact ⟨List.mem_reverse.1 (List.mem_of_find?_eq_some hfind), beq_iff_eq.1 hname⟩

/-- Two grammars disagree about the names of their productions only. -/
theorem exists_production_of_mem_compare (h : d ∈ compare authority extracted start) :
    ∃ p ∈ authority ++ extracted, p.name = some d.name := by
  simp only [compare, List.mem_append, differing, missing, extra, List.mem_filterMap] at h
  rcases h with (⟨⟨n, p⟩, hmem, hd⟩ | ⟨⟨n, p⟩, hmem, hd⟩) | ⟨⟨n, p⟩, hmem, hd⟩
  · obtain ⟨q, -, hd⟩ := Option.bind_eq_some_iff.1 hd
    obtain ⟨-, hd⟩ := Option.ite_none_left_eq_some.1 hd
    obtain ⟨hp, hname⟩ := of_mem_byName hmem
    exact ⟨p, List.mem_append_left _ hp, by rw [hname, ← Option.some.inj hd]⟩
  · obtain ⟨-, hd⟩ := Option.ite_none_left_eq_some.1 hd
    obtain ⟨hp, hname⟩ := of_mem_byName hmem
    exact ⟨p, List.mem_append_left _ hp, by rw [hname, ← Option.some.inj hd]⟩
  · obtain ⟨-, hd⟩ := Option.ite_none_left_eq_some.1 hd
    obtain ⟨hp, hname⟩ := of_mem_byName hmem
    exact ⟨p, List.mem_append_right _ hp, by rw [hname, ← Option.some.inj hd]⟩

end Grammar

namespace Difference

/-- What is said about a disagreement at a location. -/
def finding (l : Location) (d : Difference) : Diagnostic := l.error (d.code, d.message)

/-- Productions are quoted with their line breaks escaped, so only the name counts. -/
theorem isLine_message {d : Difference} (h : IsLine d.name) : IsLine d.message := by
  have hquote : IsLine ['\x27'] := by decide
  rw [message]
  split
  · exact isLine_append.2 ⟨isLine_append.2 ⟨by decide, h⟩, hquote⟩
  · exact isLine_append.2 ⟨isLine_append.2 ⟨by decide, h⟩, hquote⟩
  · have hlead : IsLine "production '".toList := by decide
    have hauthority : IsLine "' differs; authority says ".toList := by decide
    have hextracted : IsLine "; extracted says ".toList := by decide
    simp only [isLine_append, hlead, h, hauthority, hextracted, isLine_onOneLine, and_self]

end Difference

theorem reportDifferences_eq (ds : List Difference) (l : Location) (r : Reporter) :
    reportDifferences ds l r = r.found (ds.map (Difference.finding l)) := by
  rw [reportDifferences]
  induction ds generalizing r with
  | nil => rw [List.foldl_nil, List.map_nil, Reporter.found_nil]
  | cons d ds ih =>
    have hfirst : r.error d.code d.message (some l) = r.found [d.finding l] := rfl
    rw [List.foldl_cons, hfirst, ih, Reporter.found_found, List.map_cons, List.singleton_append]

/-! ## Runs -/

/-- What a run that returns has found: what is said about its documents, the edits of the index
document, and the disagreements with the grammar that has authority. -/
structure Finds (o : Options) (toolName : Text) (index : Option IndexDocument)
    (documents : List Document)
    (edits : List Readme.Edit) (differences : List Difference) (res : Result) : Prop where
  collected : ∃ r, res.sections = (buildModel o.language documents r).1.sections ∧
    res.grammar = (buildModel o.language documents r).1.grammar
  planned : ∀ d ∈ edits, ∃ x ∈ index, ∃ es, Readme.entries x.text x.path o.extension = .ok es ∧
    d ∈ Readme.plan (bodyHeadings res.sections) es
  compared : ∀ d ∈ differences, ∃ (text source : Text) (authority : Grammar),
    Notation.read text source = .ok authority ∧ d ∈ authority.compare res.grammar o.startSymbol
  reported : res.diagnostics =
    behind (findingsAt o.language toolName) [] (paragraphsOf documents) ++
    edits.map Readme.Edit.finding ++ differences.map (Difference.finding { file := toolName })

section

variable {tree : FileTree} {files : List Text} {readme grammarFile : Option Text} {o : Options}
  {toolName : Text} {res : Result} {index : Option IndexDocument}

/-- Comparing the sections with the index document adds its edits. -/
theorem exists_edits_of_compareIndex {sections : List Section} {r r' : Reporter}
    (h : compareIndex o sections r index = .ok r') :
    ∃ edits : List Readme.Edit, r' = r.found (edits.map Readme.Edit.finding) ∧
      ∀ d ∈ edits, ∃ x ∈ index, ∃ es, Readme.entries x.text x.path o.extension = .ok es ∧
        d ∈ Readme.plan (bodyHeadings sections) es := by
  cases index with
  | none =>
    obtain rfl := Except.ok.inj h
    exact ⟨[], (Reporter.found_nil r).symm, nofun⟩
  | some x =>
    rw [compareIndex] at h
    cases hentries : Readme.entries x.text x.path o.extension with
    | error f =>
      rw [hentries] at h
      cases h
    | ok es =>
      rw [hentries] at h
      obtain rfl := Except.ok.inj h
      refine ⟨_, congrArg Prod.snd (Readme.reconcile_eq sections es r),
        fun d hd => ⟨x, rfl, es, hentries, ?_⟩⟩
      split at hd
      · cases hd
      · exact hd

theorem exists_read_of_loadGrammar {path encoding : Text} {g : Grammar}
    (h : loadGrammar tree path encoding = .ok g) :
    ∃ text source, Notation.read text source = .ok g := by
  rw [loadGrammar] at h
  cases hinput : readInput tree path encoding with
  | error f =>
    rw [hinput] at h
    cases h
  | ok text =>
    rw [hinput] at h
    exact ⟨text, _, of_mapError_eq_ok h⟩

theorem diagnostics_note_readingAuthority (r : Reporter) (file : Text) :
    (r.note (.readingAuthority file)).diagnostics = r.diagnostics := by
  simp [Reporter.diagnostics, Reporter.note, Note.finding?]

/-- The diagnostics of a run that returns. -/
theorem exists_finds_of_check (h : (check tree files readme grammarFile o toolName).1 = .ok res) :
    ∃ index order documents edits differences, openIndex tree o files readme = .ok (index, order) ∧
      loadDocuments tree order o.encoding = .ok documents ∧
      Finds o toolName index documents edits differences res := by
  rw [check] at h
  split at h
  · cases h
  rename_i index order hindex
  split at h
  · cases h
  rename_i documents hdocuments
  dsimp only at h
  have hfindings : (buildModel o.language documents
      ((Reporter.new toolName).note (.reading order.length))).2.diagnostics =
      behind (findingsAt o.language toolName) [] (paragraphsOf documents) :=
    diagnostics_buildModel _ _ _
  split at h
  · cases h
  rename_i r' hcompare
  obtain ⟨edits, rfl, hedits⟩ := exists_edits_of_compareIndex hcompare
  split at h
  · obtain rfl := Except.ok.inj h
    refine ⟨index, order, documents, edits, [], hindex, hdocuments, ⟨_, rfl, rfl⟩, hedits,
      fun _ hd => absurd hd List.not_mem_nil, ?_⟩
    rw [List.map_nil, List.append_nil, ← hfindings]
    exact Reporter.diagnostics_found _ _
  · split at h
    · cases h
    rename_i authority hauthority
    obtain rfl := Except.ok.inj h
    obtain ⟨text, source, hread⟩ := exists_read_of_loadGrammar hauthority
    refine ⟨index, order, documents, edits, _, hindex, hdocuments, ⟨_, rfl, rfl⟩, hedits,
      fun d hd => ⟨text, source, authority, hread, hd⟩, ?_⟩
    simp only [Model.result, compareAuthority, reportDifferences_eq, Reporter.diagnostics_found,
      diagnostics_note_readingAuthority, hfindings]

/-! ### Parts of a run -/

theorem isShowableAt_of_loadDocuments {order : List Text}
    {documents : List Document} {encoding : Text}
    (hfiles : ∀ p ∈ order, IsLine p) (h : loadDocuments tree order encoding = .ok documents) :
    ∀ x ∈ paragraphsOf documents, IsShowableAt x := by
  intro x hx
  obtain ⟨d, hd, hx⟩ := List.mem_flatMap.1 hx
  obtain ⟨p, hp, hread⟩ := (of_mapM_eq_ok h).2 d hd
  cases hinput : readInput tree p encoding with
  | error f =>
    rw [hinput] at hread
    cases hread
  | ok text =>
    rw [hinput] at hread
    obtain rfl := Except.ok.inj hread
    exact isShowableAt_of_mem_read (Path.isLine_normalize (hfiles p hp))
      (Path.normalize_ne_nil p) hx

/-- An entry that a run reads from its index document. -/
def IsIndexEntry (tree : FileTree) (readme : Option Text) (o : Options)
    (e : Readme.Entry) : Prop :=
  ∃ x es, IsRead tree readme o x ∧ Readme.entries x.text x.path o.extension = .ok es ∧ e ∈ es

/-- An edit stands in the index document, in no section. -/
theorem isLine_location_of_mem_plan {x : IndexDocument} {es : List Readme.Entry}
    {headings : List Section} {d : Readme.Edit} (hreadme : ∀ p ∈ readme, IsLine p)
    (hx : IsRead tree readme o x) (hentries : Readme.entries x.text x.path o.extension = .ok es)
    (hd : d ∈ Readme.plan headings es) :
    IsLine d.location.file ∧ ∀ s ∈ d.location.label, IsLine s := by
  obtain ⟨e, he, hlocation⟩ := Readme.exists_location_of_mem_plan hd
  obtain ⟨-, line, hline⟩ := Readme.exists_link_of_mem_entries hentries he
  rw [hlocation, hline]
  exact ⟨hreadme x.path hx.path, nofun⟩

theorem Finds.isShowable_of_mem_sections {documents : List Document} {edits : List Readme.Edit}
    {differences : List Difference} (h : Finds o toolName index documents edits differences res)
    (hdocuments : ∀ x ∈ paragraphsOf documents, IsShowableAt x) :
    ∀ s ∈ res.sections, s.IsShowable := by
  obtain ⟨r, hsections, -⟩ := h.collected
  rw [hsections]
  exact Concordance.isShowable_of_mem_sections hdocuments r

/-- Of the edits only a removal is not shown on one line. -/
theorem Finds.exists_entry_of_mem_edits {documents : List Document} {edits : List Readme.Edit}
    {differences : List Difference} (h : Finds o toolName index documents edits differences res)
    (hreadme : ∀ p ∈ readme, IsLine p) (hread : ∀ x ∈ index, IsRead tree readme o x)
    (hheadings : ∀ s ∈ bodyHeadings res.sections, s.IsShowable) {d : Readme.Edit} (hd : d ∈ edits)
    (hline : ¬ IsLine d.finding.render) :
    ∃ e, IsIndexEntry tree readme o e ∧ Readme.position? (bodyHeadings res.sections) e = none ∧
      d = Readme.removal e ∧ ¬ e.IsLine := by
  obtain ⟨x, hx, es, hentries, hplan⟩ := h.planned d hd
  have hlocation := isLine_location_of_mem_plan hreadme (hread x hx) hentries hplan
  have hlink : ¬ IsLine d.link := fun hlink =>
    hline ((Readme.Edit.isLine_render_finding d).2 ⟨hlocation, hlink⟩)
  obtain ⟨e, he, hposition, rfl, hentry⟩ := (Readme.isLine_of_mem_plan hheadings hplan).1 hlink
  exact ⟨e, ⟨x, es, hread x hx, hentries, he⟩, hposition, rfl, hentry⟩

/-- What is said about a disagreement stands in the default file, and is a line but for that file's
name. -/
theorem Finds.isLine_of_mem_differences {documents : List Document} {edits : List Readme.Edit}
    {differences : List Difference} (h : Finds o toolName index documents edits differences res)
    {d : Difference} (hd : d ∈ differences) :
    IsLine (d.finding { file := toolName }).render ↔ IsLine toolName := by
  obtain ⟨text, source, authority, hread, hd⟩ := h.compared d hd
  obtain ⟨r, -, hgrammar⟩ := h.collected
  obtain ⟨p, hp, hname⟩ := Grammar.exists_production_of_mem_compare hd
  have hline : IsLine d.name := by
    rcases List.mem_append.1 hp with hp | hp
    · exact Notation.isLine_name_of_mem_read hread hp hname
    · exact isLine_name_of_mem_grammar r (hgrammar ▸ hp) hname
  rw [Diagnostic.isLine_render]
  exact ⟨fun h => h.1.1, fun h => ⟨⟨h, nofun⟩, Difference.isLine_message hline⟩⟩

end

/-- **What breaks a line.**  Where the paths of the documents and of the index document are lines,
a diagnostic of a run is shown on one line, with one exception: it removes an entry that lists no
heading and whose title or destination holds a line break.  (A disagreement of the grammars stands
in the default file, and is shown on one line if that is.) So each planned edit is a line, but for
the removal of such an entry.  An entry comes from a link on the page of the index document, and
holds a line break exactly if the destination of the link does, or one of its texts without the
blanks around it. -/
theorem isLine_render_of_check {tree : FileTree} {files : List Text}
    {readme grammarFile : Option Text} {o : Options} {toolName : Text}
    {res : Result} (hfiles : ∀ p ∈ files, IsLine p) (hreadme : ∀ p ∈ readme, IsLine p)
    (hrun : (check tree files readme grammarFile o toolName).1 = .ok res) :
    (∀ d ∈ res.diagnostics, ¬ IsLine d.render ↔
      d.location.file = toolName ∧ ¬ IsLine toolName ∨
      ∃ e, IsIndexEntry tree readme o e ∧ Readme.position? (bodyHeadings res.sections) e = none ∧
        d = (Readme.removal e).finding ∧ ¬ e.IsLine) ∧
    (∀ es r, ∀ d ∈ (Readme.reconcile res.sections es r).1, ¬ IsLine d.link ↔
      ∃ e ∈ es, Readme.position? (bodyHeadings res.sections) e = none ∧
        d = Readme.removal e ∧ ¬ e.IsLine) ∧
    ∀ e, IsIndexEntry tree readme o e → ∃ x as children, IsRead tree readme o x ∧
      Readme.Stands (.element "a".toList as children) (Html.parse (Markdown.page x.text)) ∧
      (e.IsLine ↔ (∀ t ∈ Readme.textsInAll children, IsLine (trim t)) ∧
        IsLine ((as.lookup "href".toList).getD [])) := by
  obtain ⟨index, order, documents, edits, differences, hindex, hdocuments, hfinds⟩ :=
    exists_finds_of_check hrun
  obtain ⟨hread, horder⟩ := of_openIndex hindex
  have hshow := isShowableAt_of_loadDocuments (fun p hp => hfiles p (horder hp)) hdocuments
  have hsections := hfinds.isShowable_of_mem_sections hshow
  have hheadings : ∀ s ∈ bodyHeadings res.sections, s.IsShowable := fun s hs =>
    hsections s (List.mem_filter.1 hs).1
  refine ⟨fun d hd => ⟨fun hline => ?_, ?_⟩, fun es r d hd => ?_, ?_⟩
  · rw [hfinds.reported, List.mem_append, List.mem_append] at hd
    rcases hd with (hd | hd) | hd
    · exact absurd (isLine_of_mem_findings hshow hd) hline
    · obtain ⟨c, hc, rfl⟩ := List.mem_map.1 hd
      obtain ⟨e, he, hposition, rfl, hentry⟩ :=
        hfinds.exists_entry_of_mem_edits hreadme hread hheadings hc hline
      exact Or.inr ⟨e, he, hposition, rfl, hentry⟩
    · obtain ⟨c, hc, rfl⟩ := List.mem_map.1 hd
      exact Or.inl ⟨rfl, fun h => hline ((hfinds.isLine_of_mem_differences hc).2 h)⟩
  · rintro (⟨hfile, htool⟩ | ⟨e, -, -, rfl, hentry⟩) hline
    · exact htool (hfile ▸ ((Diagnostic.isLine_render d).1 hline).1.1)
    · exact hentry ((Readme.isLine_link _ _ _).1 ((Readme.Edit.isLine_render_finding _).1 hline).2)
  · rw [Readme.reconcile_eq] at hd
    dsimp only at hd
    split at hd
    · cases hd
    · exact Readme.isLine_of_mem_plan hheadings hd
  · rintro e ⟨x, es, hx, hentries, he⟩
    obtain ⟨⟨as, children, hstands, hanchor, htitle⟩, -⟩ :=
      Readme.exists_link_of_mem_entries hentries he
    refine ⟨x, as, children, hx, hstands, ?_⟩
    rw [Readme.Entry.IsLine, htitle, hanchor, Readme.isLine_titleOf]

/-- A document, and an index document with a link whose text goes on in the next line. -/
def wrappedTree : FileTree where
  files := [(["a.md".toList], "# A\n".toList.map Char.toNat),
    (["README.md".toList], "* [B\nC](b.md)\n".toList.map Char.toNat)]
  directories := []

/-- The run over a document and its index document. -/
def wrappedRun : Except Failure Result :=
  (check wrappedTree ["a.md".toList] (some "README.md".toList) none
    ({} : Settings).options "mdspec".toList).1

theorem isLine_render_of_check_wrapped :
    (∀ p ∈ ["a.md".toList], IsLine p) ∧ (∀ p ∈ some "README.md".toList, IsLine p) ∧
    ∃ res, wrappedRun = .ok res ∧ ∃ d ∈ res.diagnostics, ∃ e,
      IsIndexEntry wrappedTree (some "README.md".toList) ({} : Settings).options e ∧
        d = (Readme.removal e).finding ∧ ¬ e.IsLine := by
  have hfiles : ∀ p ∈ ["a.md".toList], IsLine p := by decide
  have hreadme : ∀ p ∈ some "README.md".toList, IsLine p := by
    rintro _ ⟨⟩
    decide
  have hrenders : wrappedRun.map (fun res => res.diagnostics.map Diagnostic.render) =
      .ok ["README.md(1): error readme-remove: Remove: * [B\nC](b.md)".toList] := by
    decide +kernel
  refine ⟨hfiles, hreadme, ?_⟩
  cases hres : wrappedRun with
  | error f =>
    rw [hres] at hrenders
    cases hrenders
  | ok res =>
    rw [hres] at hrenders
    have hlist : res.diagnostics.map Diagnostic.render =
        ["README.md(1): error readme-remove: Remove: * [B\nC](b.md)".toList] :=
      Except.ok.inj hrenders
    obtain ⟨d, hd, hdrender⟩ := List.mem_map.1 (hlist ▸ List.mem_singleton_self _)
    have hline : ¬ IsLine d.render := by
      rw [hdrender]
      decide
    rcases ((isLine_render_of_check hfiles hreadme hres).1 d hd).1 hline with ⟨-, htool⟩ |
      ⟨e, he, -, heq, hentry⟩
    · exact absurd (by decide) htool
    · exact ⟨res, rfl, d, hd, e, he, heq, hentry⟩

/-- A link whose text goes on in the next line makes a diagnostic of two lines. -/
theorem check_wrappedLink :
    wrappedRun.map (fun res => res.diagnostics.map Diagnostic.render) =
        .ok ["README.md(1): error readme-remove: Remove: * [B\nC](b.md)".toList] ∧
      IsLine "a.md".toList ∧ IsLine "README.md".toList ∧
      ¬ IsLine "README.md(1): error readme-remove: Remove: * [B\nC](b.md)".toList :=
  ⟨by decide +kernel, by decide, by decide, by decide⟩

end Concordance
