import Concordance.Check
import Concordance.Proofs.Index.Invariant
import Concordance.Proofs.Index.Numbers
import Concordance.Proofs.Notation.Statements

/-!
# Links from productions to sections

Each production of a model carries the anchor and the title of the section accepted last before the
block it stands in, in whatever document that was.  The section is told from the headings before
the block alone; the pass that collects the productions is not mentioned.

* `Notation.isUnlinked_of_mem_read`: what is read from notation carries no link yet.
* `grammar_along`: the grammar behind any paragraphs, in closed form.
* `isLinkedInto_of_mem_behind` and `isLinkedInto_linkFrom`: no link leads nowhere, and copying
  links from one grammar to another does not change that.
* `check_eq_ok` says what a run that succeeds returns, and the last theorem what its links are.
-/

namespace Concordance

open Text

/-! ## What is read carries no link -/

namespace Notation

/-- Whether a production carries no link. -/
def IsUnlinked (p : Production) : Prop := p.linkAnchor = none ∧ p.linkTitle = none

theorem isUnlinked_of_mem_rules {t : Text} {ps : List (Nat × Piece)} {c : Span}
    (h : c ∈ rules t ps) : IsUnlinked c.production := by
  obtain ⟨ks, -, hrule⟩ := List.mem_filterMap.1 h
  simp only [rule?] at hrule
  split at hrule
  · obtain rfl := Option.some.inj hrule
    exact ⟨rfl, rfl⟩
  · simp at hrule

theorem isUnlinked_of_mem_comments {spans : List Span} {ps : List (Nat × Piece)} {c : Span}
    (h : c ∈ commentsOutside spans ps) : IsUnlinked c.production := by
  obtain ⟨⟨o, p⟩, -, hp⟩ := List.mem_filterMap.1 h
  cases p with
  | layout w | token k => simp at hp
  | comment w =>
    simp only at hp
    split at hp
    · simp at hp
    · obtain rfl := Option.some.inj hp
      exact ⟨rfl, rfl⟩

theorem isUnlinked_of_mem_read {t source : Text} {g : Grammar} (h : read t source = .ok g)
    {p : Production} (hp : p ∈ g) : IsUnlinked p := by
  obtain ⟨ps, qs, -, -, rfl⟩ := read_eq_ok.1 h
  obtain ⟨c, hc, rfl⟩ := List.mem_map.1 hp
  rcases List.mem_append.1 ((foldl_insertSpan_perm _ _).mem_iff.1 hc) with hc | hc
  · exact isUnlinked_of_mem_comments hc
  · exact isUnlinked_of_mem_rules hc

end Notation

/-! ## Sections and productions told from the paragraphs before -/

/-- The section that paragraphs lead to: the last one that their headings make. -/
def sectionBehindAll (before : List (Text × Paragraph)) : Option Section :=
  (sectionsBehind [] (headingsAmong before)).getLast?

/-- A production with links to a section, or with none. -/
def Production.linked (s : Option Section) (p : Production) : Production :=
  { p with linkAnchor := s.map (·.anchor), linkTitle := s.map (·.title) }

theorem Production.linked_none {p : Production} (h : Notation.IsUnlinked p) :
    p.linked none = p := by
  obtain ⟨hanchor, htitle⟩ := h
  cases p
  simp_all [Production.linked]

/-- The productions of a paragraph behind others: those of a fragment in the language, if it can be
read, with links to the section that the others lead to. -/
def productionsAt (language : Text) (before : List (Text × Paragraph))
    (x : Text × Paragraph) : Grammar :=
  match x.2 with
  | .code l text _ =>
    if l = language then
      match Notation.read text (Path.name x.1) with
      | .ok ps => ps.map (Production.linked (sectionBehindAll before))
      | .error _ => []
    else []
  | _ => []

namespace Index

theorem sections_after (hs : List (Heading × Text)) :
    (after hs).sections = sectionsBehind [] hs := by
  have h := sections_after_append [] hs
  rwa [List.nil_append] at h

theorem current_after (hs : List (Heading × Text)) :
    (after hs).current = (sectionsBehind [] hs).getLast? := by
  rw [(consistent_after hs).current, sections_after]

end Index

theorem sectionsBehind_append (hs ks : List (Heading × Text)) :
    sectionsBehind [] (hs ++ ks) = sectionsBehind [] hs ++ sectionsBehind hs ks := by
  rw [← Index.sections_after, Index.sections_after_append, Index.sections_after]

namespace Pass

variable (language : Text)

theorem index_along_empty (xs : List (Text × Paragraph)) :
    (along language {} xs).index = Index.after (headingsAmong xs) :=
  index_along language {} xs

theorem current_along (xs : List (Text × Paragraph)) :
    (along language {} xs).index.current = sectionBehindAll xs := by
  rw [index_along_empty, Index.current_after, sectionBehindAll]

/-- What is read has no links, so the links of a fragment are exactly those of the current
section. -/
theorem productions_eq (p : Pass) (code file : Text) :
    p.productions code file =
      match Notation.read code file with
      | .ok ps => ps.map (Production.linked p.index.current)
      | .error _ => [] := by
  rw [productions, readFragment]
  cases hread : Notation.read code file with
  | error f => rfl
  | ok ps =>
    refine List.map_congr_left fun q hq => ?_
    have hunlinked := Notation.isUnlinked_of_mem_read hread hq
    cases p.index.current with
    | some s => rfl
    | none => exact (Production.linked_none hunlinked).symm

theorem productions_along (before : List (Text × Paragraph)) (path code : Text)
    (line : Option Int) :
    (along language {} before).productions code (Path.name path) =
      productionsAt language before (path, .code language code line) := by
  rw [productions_eq, current_along]
  simp only [productionsAt, if_true]

theorem grammar_next (before : List (Text × Paragraph)) (x : Text × Paragraph) :
    ((along language {} before).next language (Path.name x.1) x.2).grammar =
      (along language {} before).grammar ++ productionsAt language before x := by
  obtain ⟨path, b⟩ := x
  cases b with
  | code l text line =>
    by_cases hl : l = language
    · subst hl
      simp only [next, if_true, productions_along l before path text line]
    · simp only [next, productionsAt, if_neg hl, List.append_nil]
  | _ => exact (List.append_nil _).symm

/-- The grammar behind any paragraphs. -/
theorem grammar_along (xs : List (Text × Paragraph)) :
    (along language {} xs).grammar = behind (productionsAt language) [] xs := by
  induction xs using List.reverseRecOn with
  | nil => rfl
  | append_singleton xs x ih =>
    rw [along_append, behind_append, behind_singleton, List.nil_append, ← ih]
    exact grammar_next language xs x

end Pass

theorem grammar_buildModel (language : Text) (documents : List Document) (r : Reporter) :
    (buildModel language documents r).1.grammar =
      behind (productionsAt language) [] (paragraphsOf documents) := by
  rw [buildModel_eq, Pass.grammar_along]

/-! ## No link leads nowhere -/

/-- Whether a production has no link, or links to one of some sections. -/
def Production.IsLinkedInto (sections : List Section) (p : Production) : Prop :=
  p.linkAnchor = none ∧ p.linkTitle = none ∨
    ∃ s ∈ sections, p.linkAnchor = some s.anchor ∧ p.linkTitle = some s.title

theorem isLinkedInto_of_mem_behind {language : Text} {xs : List (Text × Paragraph)}
    {p : Production} (h : p ∈ behind (productionsAt language) [] xs) :
    p.IsLinkedInto (sectionsBehind [] (headingsAmong xs)) := by
  obtain ⟨before, x, rest, rfl, hp⟩ := mem_behind h
  obtain ⟨q, rfl⟩ : ∃ q, p = Production.linked (sectionBehindAll before) q := by
    rw [List.nil_append, productionsAt] at hp
    split at hp
    · split at hp
      · split at hp
        · obtain ⟨q, -, rfl⟩ := List.mem_map.1 hp
          exact ⟨q, rfl⟩
        · simp at hp
      · simp at hp
    · simp at hp
  cases hs : sectionBehindAll before with
  | none => exact Or.inl ⟨rfl, rfl⟩
  | some s =>
    refine Or.inr ⟨s, ?_, rfl, rfl⟩
    rw [headingsAmong, List.filterMap_append, sectionsBehind_append]
    exact List.mem_append_left _ (List.mem_of_getLast? hs)

theorem isLinkedInto_linkFrom {sections : List Section} {authority extracted : Grammar}
    (h : ∀ p ∈ extracted, p.IsLinkedInto sections) {p : Production}
    (hp : p ∈ authority.linkFrom extracted) : p.IsLinkedInto sections := by
  obtain ⟨q, -, rfl⟩ := List.mem_map.1 hp
  cases hsource : q.name.bind extracted.first? with
  | none => exact Or.inl ⟨by simp, by simp⟩
  | some source =>
    obtain ⟨n, -, hn⟩ := Option.bind_eq_some_iff.1 hsource
    have hlinks := h source (List.mem_of_find?_eq_some hn)
    simpa only [Production.IsLinkedInto, hsource, Option.bind_some] using hlinks

/-! ## Runs -/

section

variable {tree : FileTree} {files : List Text} {readme grammarFile : Option Text} {o : Options}
  {toolName : Text} {res : Result}

/-- What a run that succeeds returns: the model of the documents that it read, and perhaps a
grammar with authority that is linked from it. -/
theorem check_eq_ok (h : (check tree files readme grammarFile o toolName).1 = .ok res) :
    ∃ index order documents, openIndex tree o files readme = .ok (index, order) ∧
      loadDocuments tree order o.encoding = .ok documents ∧ ∃ r,
        res.sections = (buildModel o.language documents r).1.sections ∧
        res.grammar = (buildModel o.language documents r).1.grammar ∧
        ∀ g ∈ res.authority, ∃ authority : Grammar, g = authority.linkFrom res.grammar := by
  rw [check] at h
  split at h
  · cases h
  rename_i index order hindex
  split at h
  · cases h
  rename_i documents hdocuments
  refine ⟨index, order, documents, hindex, hdocuments,
    (Reporter.new toolName).note (.reading order.length), ?_⟩
  dsimp only at h
  split at h
  · cases h
  · split at h
    · obtain rfl := Except.ok.inj h
      exact ⟨rfl, rfl, by simp [Model.result]⟩
    · split at h
      · cases h
      · rename_i authority _
        obtain rfl := Except.ok.inj h
        refine ⟨rfl, rfl, fun g hg => ⟨authority, ?_⟩⟩
        exact (Option.mem_some.1 hg).symm

/-- The grammar and the sections of a run are told from the same paragraphs. -/
theorem isLinkedInto_of_check (h : (check tree files readme grammarFile o toolName).1 = .ok res) :
    (∀ p ∈ res.grammar, p.IsLinkedInto res.sections) ∧
      ∀ g ∈ res.authority, ∀ p ∈ g, p.IsLinkedInto res.sections := by
  obtain ⟨-, -, documents, -, -, r, hsections, hgrammar, hauthority⟩ := check_eq_ok h
  have hlinked : ∀ p ∈ res.grammar, p.IsLinkedInto res.sections := by
    rw [hsections, hgrammar, grammar_buildModel, buildModel_eq, Pass.index_along_empty,
      Index.sections_after]
    exact fun p hp => isLinkedInto_of_mem_behind hp
  refine ⟨hlinked, fun g hg p hp => ?_⟩
  obtain ⟨authority, rfl⟩ := hauthority g hg
  exact isLinkedInto_linkFrom hlinked hp

end

/-- **The grammar of documents, with its links.**  It lists what is read from each block of the
language that can be read, block after block; every production is linked to the section accepted
last before its block, wherever in the run that was.  So in what a run returns no link leads
nowhere: each production of the grammar, and of the grammar with authority, has neither anchor nor
title, or those of a section that is returned. -/
theorem grammar_of_documents (language : Text) (documents : List Document) (r : Reporter)
    (tree : FileTree) (files : List Text) (readme grammarFile : Option Text) (o : Options)
    (toolName : Text) :
    (buildModel language documents r).1.grammar =
      behind (productionsAt language) [] (paragraphsOf documents) ∧
    ∀ res, (check tree files readme grammarFile o toolName).1 = .ok res →
      (∀ p ∈ res.grammar, p.IsLinkedInto res.sections) ∧
      ∀ g ∈ res.authority, ∀ p ∈ g, p.IsLinkedInto res.sections :=
  ⟨grammar_buildModel language documents r, fun _ h => isLinkedInto_of_check h⟩

/-- A section with one rule, and a grammar with authority that has one rule more. -/
def syntaxFiles : FileTree where
  files := [
    (["a.md".toList], "# A\n```antlr\nr : b ;\n```\n".toList.map Char.toNat),
    (["g".toList], "r : b ;\ns : c ;\n".toList.map Char.toNat)]
  directories := []

theorem grammar_of_documents_syntaxFiles :
    ∃ res, (check syntaxFiles ["a.md".toList] none (some "g".toList) ({} : Settings).options
        "mdspec".toList).1 = .ok res ∧
      (res.grammar.map (·.linkTitle), res.authority.map (List.map (·.linkTitle))) =
        ([some "A".toList], some [some "A".toList, none]) ∧
      (∀ p ∈ res.grammar, p.IsLinkedInto res.sections) ∧
      ∀ g ∈ res.authority, ∀ p ∈ g, p.IsLinkedInto res.sections := by
  have htitles : (check syntaxFiles ["a.md".toList] none (some "g".toList) ({} : Settings).options
      "mdspec".toList).1.map (fun res =>
        (res.grammar.map (·.linkTitle), res.authority.map (List.map (·.linkTitle)))) =
      .ok ([some "A".toList], some [some "A".toList, none]) := by
    decide +kernel
  cases hres : (check syntaxFiles ["a.md".toList] none (some "g".toList) ({} : Settings).options
      "mdspec".toList).1 with
  | error f =>
    rw [hres] at htitles
    cases htitles
  | ok res =>
    rw [hres] at htitles
    exact ⟨res, rfl, Except.ok.inj htitles,
      (grammar_of_documents [] [] (Reporter.new []) _ _ _ _ _ _).2 res hres⟩

end Concordance
